import Inlay.Render.Sink

namespace Inlay.Render
open Text (utf8_append)

def Writes (action : Emit α) (a : α) (s : Text) : Prop :=
  ∀ sink : Sink, sink.room = none →
    action sink = (.ok a, ⟨sink.written ++ Text.utf8 s, none⟩)

namespace Writes

theorem pure (a : α) : Writes (Pure.pure a) a [] := by
  rintro ⟨written, room⟩ rfl
  simp [Text.utf8]
  rfl

theorem text (s : Text) : Writes (Emit.text s) () s := by
  rintro ⟨written, room⟩ rfl
  rfl

theorem bind {action : Emit α} {next : α → Emit β} {a : α} {b : β} {s t : Text}
    (first : Writes action a s) (second : Writes (next a) b t) :
    Writes (action >>= next) b (s ++ t) := by
  intro sink unlimited
  rw [Emit.bind_apply, first sink unlimited]
  have whole : sink.written ++ Text.utf8 s ++ Text.utf8 t = sink.written ++ Text.utf8 (s ++ t) := by
    apply Array.ext'
    simp [utf8_append]
  show next a ⟨sink.written ++ Text.utf8 s, none⟩ = _
  rw [second _ rfl, whole]

theorem run {action : Emit α} {a : α} {s : Text} (h : Writes action a s) :
    action.run none = (.ok a, Text.utf8 s) := by
  rw [Emit.run, h (.empty none) rfl]
  simp [Sink.empty]

end Writes
end Inlay.Render
