import Inlay.Proofs.Markup.Nesting
import Mathlib.Data.List.Basic

namespace Inlay.Markup
open Attempt

/-- The position of the nearest entry before a place that is an owner and less indented than the
place, still open or not.  The entries before it are given nearest first. -/
def nearest? (level : Nat) : List Entry → Option Nat
  | [] => none
  | e :: earlier =>
    if e.item.opens ∧ e.level < level then some earlier.length else nearest? level earlier

/-- Parsing is one pass over the tokens with a stack, in its documents and in its errors; and a
document is the forest of the entries of its text, with nothing left out, in which each entry stands
under the nearest owner before it that is less indented than it and than all entries between. -/
theorem parse_eq_run_and_placed (s : Text) :
    parse s = Machine.start.run (.ofText s) ∧
    ∀ d, parse s = .ok d → ∃ (ts : List Token) (f : Forest), tokenize s = .ok ts ∧
      marks 0 ts = f.flatten.flatMap Entry.marks ∧
      f.parents none 0 = holders [] f.flatten ∧
      f.nodes? = some d.nodes := by
  refine ⟨(Machine.run_eq_ofStream _).symm, fun d parsed => ?_⟩
  obtain ⟨es, divided, nodes⟩ := parse_eq_ok.1 parsed
  obtain ⟨ts, tokens, same⟩ := Stream.entries?_marks divided
  refine ⟨ts, .ofEntries es, tokens, ?_, ?_, nodes⟩
  · rw [Forest.flatten_ofEntries]
    exact same
  · rw [Forest.flatten_ofEntries]
    have top : (Forest.ofEntries es).parents none ([] : List Entry).length = holders [] es :=
      Forest.parents_ofEntries fun _ _ _ _ _ => rfl
    exact top

/-- A component, a line beside it, and a deeper line: the nearest owner before the last line that is
less indented is the component, but the line between has closed it. -/
theorem deep_line_after_closed_component :
    ∃ (ts : List Token) (component beside deep : Entry),
      tokenize "\\A\ntext\n    deep".toList = .ok ts ∧
      marks 0 ts = [component, beside, deep].flatMap Entry.marks ∧
      nearest? deep.level [beside, component] = some 0 ∧
      parse "\\A\ntext\n    deep".toList =
        .ok ⟨[.component ⟨['A'], [], [], ⟨1, 1⟩⟩, .text "text".toList, .text "deep".toList]⟩ := by
  refine ⟨[⟨.component, ['A'], ⟨1, 1⟩⟩, ⟨.lineBreak, ['\n'], ⟨1, 3⟩⟩,
    ⟨.text, "text".toList, ⟨2, 1⟩⟩,
    ⟨.lineBreak, ['\n'], ⟨2, 5⟩⟩, ⟨.indent, ['\t'], ⟨3, 1⟩⟩, ⟨.text, "deep".toList, ⟨3, 5⟩⟩,
    ⟨.endOfInput, [], ⟨3, 9⟩⟩], ⟨0, .component ['A'] ⟨1, 1⟩⟩, ⟨0, .text "text".toList⟩,
    ⟨1, .text "deep".toList⟩, ?_, rfl, rfl, by cbv⟩
  cbv

theorem deep_line_placed_in_document :
    ∃ (ts : List Token) (f : Forest), tokenize "\\A\ntext\n    deep".toList = .ok ts ∧
      marks 0 ts = f.flatten.flatMap Entry.marks ∧
      f.parents none 0 = holders [] f.flatten ∧
      f.nodes? = some [.component ⟨['A'], [], [], ⟨1, 1⟩⟩, .text "text".toList,
        .text "deep".toList] :=
  (parse_eq_run_and_placed _).2 ⟨_⟩ (by cbv)

end Inlay.Markup
