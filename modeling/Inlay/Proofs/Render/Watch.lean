import Inlay.Render.Web

namespace Inlay.Render

open Inlay.Markdown (Node)

structure Failure where
  path : List Text
  root : Error

def Error.failure (path : List Text) (e : Error) : Failure := ⟨path ++ e.path, e.cause⟩

namespace Failure

def told (path : List Text) (failure : Failure) : Error :=
  failure.root.within (failure.path.drop path.length)

/-- The failure that a template ends with: one that it has met, or else one of its own, of which it
may say itself what it is inside of. -/
def raised (path : List Text) (met : List Failure) (e : Error) : Failure :=
  (met.find? fun failure => failure.told path = e).getD (e.failure path)

end Failure

abbrev Watching := ExceptT Failure (StateT Sink Option)

namespace Watching

def fail (path : List Text) (root : Error) : Watching α := throw ⟨path, root⟩

def emit (path : List Text) (action : Emit α) : Watching α := fun s =>
  match action s with
  | (.ok a, s) => some (.ok a, s)
  | (.error root, s) => some (.error ⟨path, root⟩, s)

def capture (action : Watching Unit) : Watching (List UInt8) := fun s =>
  (action (.empty none)).map fun
    | (.ok (), inner) => (.ok inner.written.toList, s)
    | (.error failure, _) => (.error failure, s)

def attempt (action : Watching Unit) : Watching (Option Failure) := fun s =>
  (action s).map fun
    | (.ok (), s) => (.ok none, s)
    | (.error failure, s) => (.ok (some failure), s)

def collect (action : Watching Unit) : Watching (Option Failure × List UInt8) := fun s =>
  (action (.empty none)).map fun
    | (.ok (), inner) => (.ok (none, inner.written.toList), s)
    | (.error failure, inner) => (.ok (some failure, inner.written.toList), s)

end Watching

def Value.settle : Value (Except Failure Content) → Except Failure (Value Content)
  | .string text => .ok (.string text)
  | .boolean set => .ok (.boolean set)
  | .integer number => .ok (.integer number)
  | .float number => .ok (.float number)
  | .component made => made.map .component
  | .attributes pairs => .ok (.attributes pairs)

namespace Supplies

def bindFieldsIn (path : List Text) (markdown : Text → Content)
    (supplies : Supplies (Except Failure Content))
    (props : Props Content) : Schema → Except Failure (Props Content)
  | [] => .ok props
  | f :: r =>
    match supplies.for? f with
    | none => supplies.bindFieldsIn path markdown props r
    | some s => do
      let v ← (s.coerce (fun text => .ok (markdown text)) f).mapError (Failure.mk path)
      supplies.bindFieldsIn path markdown (props.put f.name (← v.settle)) r

def bindIn (path : List Text) (markdown : Text → Content) (schema : Schema)
    (supplies : Supplies (Except Failure Content)) :
    Except Failure (Props Content) := do
  let props ← supplies.bindFieldsIn path markdown [] schema
  let rest := supplies.untaken schema
  match schema.bag? with
  | some bag =>
    let pairs ← Except.mapError (Failure.mk path) (rest.mapM fun p => p.2.asAttribute p.1)
    return props.put bag.name (.attributes pairs)
  | none =>
    if rest.isEmpty then return props
    else .error ⟨path, .bind (.unknown (rest.map (·.1)))⟩

end Supplies

section

variable (home : Nat) (top : Layout)

mutual

def instantiateIn (path : List Text) (scope : Scope) :
    Markup.Component → Except Failure Content
  | ⟨name, properties, below, _⟩ =>
    if name = slotName then .ok .outlet
    else match scope.resolve top name with
      | .error fault => .error ⟨path, .lookup fault⟩
      | .ok e => do
        let supplies := supplyAllIn (path ++ [name]) (.inside e.inside) properties
        let props ← supplies.bindIn (path ++ [name]) (.markdown home) e.template.schema
        return .component home name e.template props below e.inside

def supplyAllIn (path : List Text) (scope : Scope) :
    List Markup.Property → Supplies (Except Failure Content)
  | [] => []
  | ⟨name, value⟩ :: r => (name, supplyIn path scope value) :: supplyAllIn path scope r

def supplyIn (path : List Text) (scope : Scope) :
    Markup.Value → Supplied (Except Failure Content)
  | .string text => .string text
  | .flag => .flag
  | .component inner => .component (.ok (instantiateIn path scope inner))

end

end

namespace Web

abbrev BelowIn := List Text → Content → Context → Watching Unit

section

variable (below : BelowIn) (path : List Text)

def outletIn (ctx : Context) : Watching Unit :=
  match ctx.slot with
  | some c => below path c ctx.withoutSlot
  | none => .fail path (.lookup .noSlot)

/-- What the innermost of some templates does, which has met some failures so far. -/
def performIn (props : Props Content) (ctx : Context) (met : List Failure) :
    Routine → Watching Unit
  | .done (.ok ()) => return ()
  | .done (.error e) => throw (.raised path met e)
  | .write bytes next => do
    let failure ← Watching.attempt (.emit path (Emit.write bytes))
    performIn props ctx (failure.toList ++ met) (next (failure.map (·.told path)))
  | .render part setting next => do
    let failure ←
      Watching.attempt (below path (part.content props ctx) (setting.context props ctx))
    performIn props ctx (failure.toList ++ met) (next (failure.map (·.told path)))
  | .collect part setting next => do
    let (failure, bytes) ←
      Watching.collect (below path (part.content props ctx) (setting.context props ctx))
    performIn props ctx (failure.toList ++ met) (next (failure.map (·.told path)) bytes)

variable (web : Web) (home : Nat)

def nodeIn (scope : Scope) (ctx : Context) : Markup.Node → Watching Unit
  | .text value => below path (.markdown home value) ctx
  | .component c =>
    match instantiateIn home (web home).layout path scope c with
    | .ok content => below path content ctx
    | .error failure => throw failure

def elementIn (d : Host.Document) (ctx : Context) (e : String × Template) (n : Node)
    (each : Watching Unit) : Watching Unit := do
  let inner ← Watching.capture each
  let name := e.1.toList
  match (elementSupplies d n).bind (.markdown home) e.2.schema with
  | .error root => .fail (path ++ [name]) root
  | .ok props =>
    below (path ++ [name]) (.filled e.2 props) (ctx.withChildren (.html (Text.lossy inner)))

def visitIn (d : Host.Document) (source : Text) (ctx : Context) :
    Visitor Watching := fun n each entering => do
  match d.markup? n with
  | some nodes =>
    if entering then below path (.nodes home nodes .top) ctx
    return .skipChildren
  | none =>
    match (web home).element? n with
    | some e =>
      if entering then elementIn below path home d ctx e n each
      return .skipChildren
    | none => .emit path ((web home).fallback d source n entering)

end

def levelIn (web : Web) (below : BelowIn) (path : List Text) (content : Content) (ctx : Context) :
    Watching Unit :=
  match content with
  | .html text => .emit path (Emit.text text)
  | .join parts => parts.forM (below path · ctx)
  | .filled t props => performIn below path props ctx [] (t.routine props ctx.view)
  | .component home name t props nodes space =>
    let children := .nodes home nodes (.inside space)
    below (path ++ [name]) (.filled t props) (ctx.withChildren children)
  | .nodes home nodes scope => nodes.forM (nodeIn below path web home scope ctx)
  | .markdown home source =>
    match (web home).read source with
    | .ok d => below path (.document home d source) ctx
    | .error root => .fail path root
  | .document home d source => do
    let _ ← tour (visitIn below path web home d source ctx) d.root
  | .outlet => outletIn below path ctx

/-- The outcomes of watched rendering: those of a level, as long as the levels below it have no
others. -/
inductive Watched (web : Web) :
    List Text → Content → Context → Sink → Except Failure Unit × Sink → Prop
  | level {below : BelowIn} {path : List Text} {content : Content} {ctx : Context} {s : Sink}
      {outcome : Except Failure Unit × Sink} :
      (∀ path content ctx s outcome, below path content ctx s = some outcome →
        Watched web path content ctx s outcome) →
      web.levelIn below path content ctx s = some outcome →
      Watched web path content ctx s outcome

end Web
end Inlay.Render
