import Inlay.Json.Record
import Inlay.Render.Batch

namespace Inlay.Render

open Inlay.Json (Reader Member)

def Options.reader : Reader Options :=
  Json.record
    [⟨"trigger", fun o => return { o with trigger := ← Json.text }⟩,
      ⟨"gfm", fun o => return { o with gfm := ← Json.boolean }⟩,
      ⟨"allowRawHtml", fun o => return { o with allowRawHtml := ← Json.boolean }⟩]
    Options.default some

def Page.reader : Reader Page :=
  Json.record
    [⟨"url", fun p => return { p with url := ← Json.text }⟩,
      ⟨"locale", fun p => return { p with locale := ← Json.nullable Json.text }⟩,
      ⟨"meta", fun p => return { p with metadata := ← Json.table }⟩]
    Page.empty some

structure PartialInput where
  id : Option Text
  source : Option Text
  page : Option Page

def PartialInput.finish (i : PartialInput) : Option BatchInput := do
  return ⟨← i.id, ← i.source, i.page⟩

def BatchInput.reader : Reader BatchInput :=
  Json.record
    [⟨"id", fun i => return { i with id := some (← Json.text) }⟩,
      ⟨"source", fun i => return { i with source := some (← Json.text) }⟩,
      ⟨"page", fun i => return { i with page := ← Json.nullable Page.reader }⟩]
    (⟨none, none, none⟩ : PartialInput) PartialInput.finish

def BatchOptions.reader : Reader BatchOptions :=
  Json.record
    [⟨"maxThreads", fun o => return { o with maxThreads := ← Json.nullable Json.natural }⟩,
      ⟨"continueOnError", fun o =>
        return { o with continueOnError := ← Json.nullable Json.boolean }⟩,
      ⟨"layoutSource", fun o => return { o with frame := ← Json.nullable Json.text }⟩]
    BatchOptions.default some

def Options.ofJson (s : Text) : Except Json.Fault Options := Json.read Options.reader s

def Page.ofJson (s : Text) : Except Json.Fault Page := Json.read Page.reader s

def BatchInput.listOfJson (s : Text) : Except Json.Fault (List BatchInput) :=
  Json.read (Json.list BatchInput.reader) s

def BatchOptions.ofJson (s : Text) : Except Json.Fault BatchOptions :=
  Json.read BatchOptions.reader s

end Inlay.Render
