-- SUMMARY: Sprites drawn one after another combine by parity, so their order does not matter.
import Chip8.Proofs.Drawing

/-! # Many sprites

Drawing inverts each covered pixel once, and what is covered depends on memory and on
where the sprite goes, but not on the display. So what a pixel is after many sprites is
told by how many of them cover it, and only by whether that number is odd. -/

namespace Chip8

/-- A sprite to be drawn: its bytes, which lie inside of memory, the corner it goes to, and
    the two registers that the corner is put into. -/
structure Job where
  address : UInt16
  height : Nibble
  column : UInt8
  row : UInt8
  x : Register
  y : Register
  inside : address.toNat + height ≤ 4096
  distinct : x ≠ y

namespace Machine

variable {m other : Machine} {byte : UInt8} {j : Job} {jobs jobs' : List Job} {p : Fin displaySize}

/-- The machine with I at the sprite of a job, and its corner in VX and VY. -/
def poised (m : Machine) (j : Job) : Machine :=
  { (m.setRegister j.x j.column).setRegister j.y j.row with index := j.address }

/-- Performs a job. -/
def draw (m : Machine) (byte : UInt8) (j : Job) : Outcome Progress :=
  (m.poised j).execute byte (.draw j.x j.y j.height)

/-- The machine after jobs, one after another. -/
def drawAll (m : Machine) (byte : UInt8) (jobs : List Job) : Machine :=
  jobs.foldl (fun m j => (m.draw byte j).machine) m

/-- A job covers a pixel. -/
def JobCovers (m : Machine) (p : Fin displaySize) (j : Job) : Prop :=
  (m.poised j).Covers j.x j.y j.height p

/-- The pixels that a job covers. -/
def jobPixels (m : Machine) (j : Job) : List (Fin displaySize) :=
  (m.poised j).spritePixels j.x j.y j.height

/-! ## One job -/

theorem poised_register_x (m : Machine) (j : Job) : (m.poised j).register j.x = j.column := by
  have hkept : (m.poised j).register j.x = (m.setRegister j.x j.column).register j.x :=
    register_setRegister_of_ne j.distinct j.row
  rw [hkept, register_setRegister]

theorem poised_register_y (m : Machine) (j : Job) : (m.poised j).register j.y = j.row :=
  register_setRegister _ _ _

theorem jobPixels_eq (m : Machine) (j : Job) :
    m.jobPixels j = covered m.edge j.column.toNat j.row.toNat
      (m.memory.cells.extract j.address.toNat (j.address.toNat + j.height)).toList := by
  rw [jobPixels, spritePixels, poised_register_x, poised_register_y]
  rfl

/-- What a job covers depends on memory and on the edge alone. -/
theorem jobPixels_congr (hmemory : other.memory = m.memory) (hedge : other.edge = m.edge) :
    other.jobPixels = m.jobPixels := by
  funext j
  rw [jobPixels_eq, jobPixels_eq, hmemory, hedge]

theorem mem_jobPixels_iff : p ∈ m.jobPixels j ↔ m.JobCovers p j :=
  mem_spritePixels_iff_covers j.inside

theorem nodup_jobPixels (m : Machine) (j : Job) : (m.jobPixels j).Nodup :=
  nodup_spritePixels _ _ _ _

instance : DecidablePred (m.JobCovers p) := fun _ => decidable_of_iff _ mem_jobPixels_iff

/-- A job covers a pixel once or not at all. -/
theorem count_jobPixels (m : Machine) (p : Fin displaySize) (j : Job) :
    (m.jobPixels j).count p = if m.JobCovers p j then 1 else 0 := by
  by_cases hcovers : m.JobCovers p j
  · rw [if_pos hcovers]
    exact List.count_eq_one_of_mem (m.nodup_jobPixels j) (mem_jobPixels_iff.2 hcovers)
  · rw [if_neg hcovers]
    exact List.count_eq_zero_of_not_mem (mt mem_jobPixels_iff.1 hcovers)

/-- A job never fails. -/
theorem draw_eq (m : Machine) (byte : UInt8) (j : Job) :
    m.draw byte j =
      ⟨.ok .proceed,
        { m.poised j with display := m.display.toggleAll (m.jobPixels j) }.setFlag
          (m.display.anyLit (m.jobPixels j)), []⟩ :=
  execute_draw_of_inside j.inside byte

theorem draw_memory (m : Machine) (byte : UInt8) (j : Job) :
    (m.draw byte j).machine.memory = m.memory := by
  rw [draw_eq]
  rfl

theorem draw_edge (m : Machine) (byte : UInt8) (j : Job) :
    (m.draw byte j).machine.edge = m.edge := by
  rw [draw_eq]
  rfl

theorem draw_display (m : Machine) (byte : UInt8) (j : Job) :
    (m.draw byte j).machine.display = m.display.toggleAll (m.jobPixels j) := by
  rw [draw_eq]
  rfl

theorem draw_flag (m : Machine) (byte : UInt8) (j : Job) :
    (m.draw byte j).machine.register 0xF = (m.display.anyLit (m.jobPixels j)).toUInt8 := by
  rw [draw_eq]
  exact setFlag_register _ _

/-! ## Jobs one after another -/

theorem drawAll_cons (m : Machine) (byte : UInt8) (j : Job) (jobs : List Job) :
    m.drawAll byte (j :: jobs) = (m.draw byte j).machine.drawAll byte jobs := rfl

theorem drawAll_append (m : Machine) (byte : UInt8) (jobs jobs' : List Job) :
    m.drawAll byte (jobs ++ jobs') = (m.drawAll byte jobs).drawAll byte jobs' :=
  List.foldl_append

/-- A job leaves memory and the edge alone, so the next one covers what it covers at first. -/
theorem jobPixels_draw (m : Machine) (byte : UInt8) (j : Job) :
    (m.draw byte j).machine.jobPixels = m.jobPixels :=
  jobPixels_congr (m.draw_memory byte j) (m.draw_edge byte j)

theorem jobPixels_drawAll (m : Machine) (byte : UInt8) (jobs : List Job) :
    (m.drawAll byte jobs).jobPixels = m.jobPixels := by
  induction jobs generalizing m with
  | nil => rfl
  | cons j jobs ih => exact (ih (m.draw byte j).machine).trans (m.jobPixels_draw byte j)

/-- Jobs invert the pixels that they cover, one after another. -/
theorem drawAll_display (m : Machine) (byte : UInt8) (jobs : List Job) :
    (m.drawAll byte jobs).display = m.display.toggleAll (jobs.flatMap m.jobPixels) := by
  induction jobs generalizing m with
  | nil => rfl
  | cons j jobs ih =>
    rw [drawAll_cons, ih, draw_display, jobPixels_draw, List.flatMap_cons]
    exact List.foldl_append.symm

/-- A pixel is met as often as there are jobs that cover it. -/
theorem count_flatMap_jobPixels (m : Machine) (jobs : List Job) (p : Fin displaySize) :
    (jobs.flatMap m.jobPixels).count p = jobs.countP (m.JobCovers p) := by
  induction jobs with
  | nil => rfl
  | cons j jobs ih =>
    rw [List.flatMap_cons, List.count_append, ih, count_jobPixels, List.countP_cons, Nat.add_comm]
    simp only [decide_eq_true_eq]

/-- Only whether the number of jobs that cover a pixel is odd matters to it. -/
theorem get_drawAll (m : Machine) (byte : UInt8) (jobs : List Job) (p : Fin displaySize) :
    (m.drawAll byte jobs).display.pixels.get p =
      if jobs.countP (m.JobCovers p) % 2 = 1 then m.display.pixels.get p ^^^ lit
      else m.display.pixels.get p := by
  rw [drawAll_display, Display.get_toggleAll, count_flatMap_jobPixels]

/-- Jobs that cover every pixel equally often, but for even numbers, come to the same. -/
theorem drawAll_display_congr
    (h : ∀ p, jobs.countP (m.JobCovers p) % 2 = jobs'.countP (m.JobCovers p) % 2) :
    (m.drawAll byte jobs).display = (m.drawAll byte jobs').display := by
  have hpixels : (m.drawAll byte jobs).display.pixels = (m.drawAll byte jobs').display.pixels := by
    apply Vector.ext
    intro k hk
    have hget := m.get_drawAll byte jobs ⟨k, hk⟩
    rw [h, ← get_drawAll] at hget
    exact hget
  exact congrArg Display.mk hpixels

/-- The second of two equal jobs finds those pixels lit that were dark before the first. -/
theorem flag_drawAll_twice (m : Machine) (byte : UInt8) (front : List Job) (j : Job) :
    ∃ found : Bool, (m.drawAll byte (front ++ [j, j])).register 0xF = found.toUInt8 ∧
      (found = true ↔ ∃ p, m.JobCovers p j ∧ (m.drawAll byte front).display.pixels.get p = 0) := by
  have htwice : m.drawAll byte (front ++ [j, j]) =
      (((m.drawAll byte front).draw byte j).machine.draw byte j).machine :=
    m.drawAll_append byte front [j, j]
  rw [htwice, draw_flag, jobPixels_draw, draw_display, jobPixels_drawAll]
  refine ⟨_, rfl, ?_⟩
  rw [Display.anyLit_toggleAll_iff (m.nodup_jobPixels j)]
  simp only [mem_jobPixels_iff]

/-- Sprites combine by parity: after any jobs a pixel is inverted when an odd number of them
    cover it, and as before otherwise. So their order does not matter to the display, and two
    equal jobs one after another leave it as it was. The flag of the second of them tells
    whether a pixel that they cover was dark before the first. -/
theorem drawAll_parity (hpixels : m.display.Crisp) (byte : UInt8) :
    (∀ jobs j, ((m.drawAll byte jobs).draw byte j).result = .ok .proceed) ∧
      (∀ jobs p, (m.drawAll byte jobs).display.pixels.get p =
        if jobs.countP (m.JobCovers p) % 2 = 1 then
          if m.display.pixels.get p = 255 then 0 else 255
        else m.display.pixels.get p) ∧
      (∀ jobs jobs', jobs.Perm jobs' →
        (m.drawAll byte jobs).display = (m.drawAll byte jobs').display) ∧
      (∀ front j back, (m.drawAll byte (front ++ [j, j] ++ back)).display =
        (m.drawAll byte (front ++ back)).display) ∧
      ∀ front j,
        let flag := (m.drawAll byte (front ++ [j, j])).register 0xF
        let dark := ∃ p, m.JobCovers p j ∧ (m.drawAll byte front).display.pixels.get p = 0
        (flag = 1 ↔ dark) ∧ (flag = 0 ↔ ¬dark) := by
  refine ⟨?_, ?_, ?_, ?_, ?_⟩
  · intro jobs j
    rw [draw_eq]
  · intro jobs p
    rw [get_drawAll, xor_lit_of_pixel (hpixels p), lit]
  · intro jobs jobs' hperm
    refine drawAll_display_congr fun p => ?_
    rw [hperm.countP_eq]
  · intro front j back
    -- the two jobs are either both counted or both left out
    refine drawAll_display_congr fun p => ?_
    simp only [List.countP_append, List.countP_cons, List.countP_nil]
    split
    · omega
    · rfl
  · intro front j flag dark
    obtain ⟨found, hflag, hfound⟩ := m.flag_drawAll_twice byte front j
    have hdark : found = true ↔ dark := hfound
    simp only [flag, hflag, ← hdark]
    cases found <;> decide

/-- A sprite of three pixels, two of them at the end of the first row of the display. -/
def smudge : Job where
  address := 0
  height := 1
  column := 62
  row := 0
  x := 0
  y := 1
  inside := by decide
  distinct := by decide

/-- Drawn twice it leaves the display as it was, and the second time it finds the two pixels
    lit that were dark. -/
theorem smudge_twice :
    smudged.display.Crisp ∧
      (smudged.drawAll 0 [smudge, smudge]).display = smudged.display ∧
      (smudged.drawAll 0 [smudge, smudge]).register 0xF = 1 := by
  have hpixels : smudged.display.Crisp := Display.crisp_blank.toggle _
  obtain ⟨-, -, -, hrestores, hflags⟩ := drawAll_parity hpixels 0
  have hread : smudged.memory.read 0 = .ok 0xE0 := by
    simp [smudged, Memory.read, Vector.getElem_ofFn]
  have hcovers : smudged.JobCovers ⟨62, by decide⟩ smudge :=
    ⟨0, 0, 0xE0, by decide, by decide, hread, by decide, by decide, .inl rfl⟩
  have hdark : smudged.display.pixels.get ⟨62, by decide⟩ = 0 := by
    rw [smudged, Display.get_toggle, if_neg (by decide)]
    exact Vector.getElem_replicate _
  exact ⟨hpixels, hrestores [] smudge [], (hflags [] smudge).1.2 ⟨_, hcovers, hdark⟩⟩

end Machine

end Chip8
