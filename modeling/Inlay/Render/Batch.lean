import Inlay.Render.Web

namespace Inlay.Render

structure BatchInput where
  id : Text
  source : Text
  page : Option Page

structure BatchOptions where
  maxThreads : Option Nat
  continueOnError : Option Bool
  frame : Option Text

def BatchOptions.default : BatchOptions := ⟨none, none, none⟩

/-- How many workers share a batch: as many as are asked for, or those of a pool that is there for
all, if none are asked for or no others can be had. -/
inductive BatchOptions.Employs (o : BatchOptions) (pool : Nat) : Nat → Prop
  | own {workers : Nat} : o.maxThreads = some workers → 0 < workers → Employs o pool workers
  | shared : Employs o pool pool

structure BatchResult where
  id : Text
  output : Option Text
  error : Option Text

structure Tally where
  succeeded : UInt32
  failed : UInt32

def Tally.zero : Tally := ⟨0, 0⟩

structure BatchStats where
  total : UInt32
  succeeded : UInt32
  failed : UInt32

structure BatchOutput where
  results : List BatchResult
  stats : BatchStats

def BatchOutput.of (results : List BatchResult) (t : Tally) : BatchOutput :=
  ⟨results, ⟨.ofNat results.length, t.succeeded, t.failed⟩⟩

inductive Stage
  | waiting
  | taken
  | counted (r : BatchResult)
  | delivered (r : BatchResult)

structure Job where
  input : BatchInput
  stage : Stage

def Job.isBusy (j : Job) : Bool :=
  match j.stage with
  | .taken | .counted _ => true
  | .waiting | .delivered _ => false

def Job.delivered? (j : Job) : Option BatchResult :=
  match j.stage with
  | .delivered r => some r
  | _ => none

structure Workload where
  jobs : List Job
  tally : Tally

namespace Workload

def start (inputs : List BatchInput) : Workload := ⟨inputs.map (⟨·, .waiting⟩), .zero⟩

def output? (w : Workload) : Option BatchOutput :=
  (w.jobs.mapM Job.delivered?).map fun results => .of results w.tally

end Workload

namespace Web

section

variable (web : Web) (home : Nat) (frame : Option Text)

def emitOne (i : BatchInput) : Rendering Unit :=
  let page := i.page.getD (.ofUrl i.id)
  match frame with
  | some frame => web.renderPage home frame i.source page
  | none => web.convert home i.source (Context.empty.withPage page)

def renderOne (i : BatchInput) : Option (Except Error Text) :=
  ((web.emitOne home frame i).run none).map fun
    | (.ok (), bytes) => .ok (Text.lossy bytes)
    | (.error e, _) => .error e

def process (t : Tally) (i : BatchInput) : Option (BatchResult × Tally) := do
  match ← web.renderOne home frame i with
  | .ok output => return (⟨i.id, some output, none⟩, { t with succeeded := t.succeeded + 1 })
  | .error e =>
    return (⟨i.id, none, some e.wording.toList⟩, { t with failed := t.failed + 1 })

def processInOrder (goesOn : Bool) (t : Tally) :
    List BatchInput → Option (List BatchResult × Tally)
  | [] => some ([], t)
  | i :: rest => do
    let (r, t) ← web.process home frame t i
    if r.error.isSome && !goesOn then return ([r], t)
    else
      let (results, t) ← processInOrder goesOn t rest
      return (r :: results, t)

end

def runBatch (web : Web) (home : Nat) (o : BatchOptions) (inputs : List BatchInput) :
    Option BatchOutput :=
  (web.processInOrder home o.frame (o.continueOnError.getD true) .zero inputs).map
    fun (results, t) => .of results t

/-- What one of some workers may do next with a batch that goes on: take a document that no other
has taken, count the one that it has rendered, or put the result in its place. -/
inductive Advances (web : Web) (home : Nat) (frame : Option Text) (workers : Nat) :
    Workload → Workload → Prop
  | take {before after : List Job} {i : BatchInput} {t : Tally} :
      (before ++ after).countP Job.isBusy < workers →
      Advances web home frame workers ⟨before ++ ⟨i, .waiting⟩ :: after, t⟩
        ⟨before ++ ⟨i, .taken⟩ :: after, t⟩
  | count {before after : List Job} {i : BatchInput} {t t' : Tally} {r : BatchResult} :
      web.process home frame t i = some (r, t') →
      Advances web home frame workers ⟨before ++ ⟨i, .taken⟩ :: after, t⟩
        ⟨before ++ ⟨i, .counted r⟩ :: after, t'⟩
  | deliver {before after : List Job} {i : BatchInput} {t : Tally} {r : BatchResult} :
      Advances web home frame workers ⟨before ++ ⟨i, .counted r⟩ :: after, t⟩
        ⟨before ++ ⟨i, .delivered r⟩ :: after, t⟩

end Web
end Inlay.Render
