-- SUMMARY: A saved state is read from its fields, whatever their order, the spaces and the other members.
import Chip8.Proofs.Json.Members
import Chip8.Proofs.Savable

/-! # Layouts of a saved state

What is read from a text is decided by the fields in it. Their order, the blanks, the
escapes in their names and members of other names make no difference, and a list
of the nine values in order will do as well. An object that leaves a field out, or has
one twice, is refused whatever else is in it. -/

namespace Chip8.SaveState

open Json

/-- A proper state is read from every text that holds its fields. No object is read that
    lacks a field or has one twice. -/
theorem ofJson_layout :
    (∀ s : SaveState, s.fault? = none → ∀ text, record.Layout s.toRow text →
      ofJson (String.ofList text) = .ok s) ∧
    ∀ (a pad b : Blanks) (members : List Member), (∀ m ∈ members, IsString m.name) →
      (∀ m ∈ members, IsValue m.value.core) → ∀ f, record.Misnamed members f →
      ∃ cause, ofJson (String.ofList (a.text ++ (objectText pad members ++ b.text))) =
        .error (.badSave (.malformed cause)) := by
  constructor
  · intro s hs text htext
    have hparse := record.parse_layout record_labelled htext
    simp [ofJson, hparse, ofRow_toRow, hs]
  · intro a pad b members hnames hvalues f hf
    obtain ⟨cause, hparse⟩ :=
      record.parse_of_misnamed record_labelled a pad hnames hvalues hf b.text
    exact ⟨cause, by rw [ofJson, hparse]⟩

/-- A state as an object that starts with a member of another name, followed by the index, its
    name escaped, and the other fields backwards. -/
def rearranged (s : SaveState) : List Member :=
  let index := record.member s.toRow .index
  { before := .none, name := "note".toList, after := ⟨[' '], List.forall_mem_singleton.2 rfl⟩,
    value :=
      ⟨⟨['\n'], List.forall_mem_singleton.2 rfl⟩, listText .none [.plain (objectText .none [])],
        .none⟩ } ::
  { index with name := ['\\', 'u', '0', '0', '6', '9'] } ::
  (record.fields.erase .index).reverse.map (record.member s.toRow)

theorem arranges_rearranged (s : SaveState) :
    record.Arranges s.toRow s.rearranged (.index :: (record.fields.erase .index).reverse) := by
  refine .other (spells_self (List.all_eq_true.1 rfl)) (fun f => by cases f <;> decide) ?_ ?_
  · refine .list .none _ fun i hi => ?_
    obtain rfl := List.mem_singleton.1 hi
    exact .object .none [] (by simp) (by simp)
  · refine .field ?_ (Shape.layout_write _ _) (record.arranges_member record_labelled _ _)
    have hhex : IsHex ['0', '0', '6', '9'] (((0 * 16 + 0) * 16 + 6) * 16 + 9) := .mk rfl rfl rfl rfl
    exact Spells.unicode hhex rfl rfl .nil

/-- The rearranged state of a new machine is read; an empty object is not, nor is one with the
    program counter twice. -/
theorem ofJson_rearranged :
    ofJson (String.ofList (objectText .none (Machine.start .spill).saveState.rearranged)) =
      .ok (Machine.start .spill).saveState ∧
    (∃ cause, ofJson (String.ofList (objectText .none [])) = .error (.badSave (.malformed cause))) ∧
    ∃ cause, ofJson (String.ofList (objectText .none
      [record.member (Machine.start .spill).saveState.toRow .pc,
        record.member (Machine.start .spill).saveState.toRow .pc])) =
      .error (.badSave (.malformed cause)) := by
  obtain ⟨hread, hrefuse⟩ := ofJson_layout
  have hproper := (fault?_eq_none_iff _).2 (Machine.savable_start .spill).proper
  have hpc : (record.member (Machine.start .spill).saveState.toRow .pc).Named (record.label .pc) :=
    spells_self (record_labelled.plain .pc)
  refine ⟨?_, ?_, ?_⟩
  · have hlayout := Record.Layout.object .none .none .none
      (arranges_rearranged (Machine.start .spill).saveState) (by decide)
    simpa using hread _ hproper _ hlayout
  · simpa using hrefuse .none .none .none [] (by simp) (by simp) .memory (.inl (by simp))
  · have hnames : ∀ m ∈ [record.member (Machine.start .spill).saveState.toRow .pc,
        record.member (Machine.start .spill).saveState.toRow .pc], IsString m.name := by
      intro m hm
      obtain rfl : m = record.member _ .pc := by simpa using hm
      exact hpc.isString
    have hvalues : ∀ m ∈ [record.member (Machine.start .spill).saveState.toRow .pc,
        record.member (Machine.start .spill).saveState.toRow .pc], IsValue m.value.core := by
      intro m hm
      obtain rfl : m = record.member _ .pc := by simpa using hm
      exact (Shape.layout_write _ _).isValue
    have htwice := hrefuse .none .none .none _ hnames hvalues .pc
      (.inr ⟨_, _, List.Sublist.refl _, hpc, hpc⟩)
    simpa using htwice

end Chip8.SaveState
