import HtmlTemplate.Target

/-!
# `HtmlTemplate.Session`: a run over named render targets

A session is a family of targets, each known by its name. A `Step` is addressed to one target and
leaves the others alone. A step that fails, because the target is missing or has no layer to work
on, changes nothing.

`Session.perform` puts a layer around any target, as often as it is told to. `Session.step` is
`perform` for a program that can name only some kinds of targets: a document body in up to two
layers and a string in up to one. It refuses a step that leads out of these kinds.

A `Renderer` is bound to a target once and renders into it each time it is called.
-/

set_option autoImplicit false

namespace HtmlTemplate

/-- Targets by name, each name once. -/
structure Session where
  targets : List (String × Target)

/-- One operation on a target. -/
inductive Step where
  /-- A new target, in place of one with the same name. -/
  | create (name : String) (target : Target)
  | render (name : String) (t : Template)
  | renderInner (name : String) (t : Template)
  | set (name : String) (html : String)
  /-- Adds to the HTML that is there. -/
  | append (name : String) (html : String)
  /-- Copies a target under another name. -/
  | copy (name : String) (copyName : String)
  /-- Asks whether two targets are built alike and hold the same. -/
  | compare (name : String) (otherName : String)
  | wrap (name : String)
  | unwrap (name : String)

/-- Why a step fails. -/
inductive SessionError where
  | noTarget
  | wrongKind
  deriving DecidableEq, Repr

/-- What a step tells. -/
inductive Reply where
  | done
  | comparison (equal : Bool)
  deriving DecidableEq, Repr

/-- How many layers there are around a target of the outermost kind that has a name. -/
def Target.maxLayers : Target → Nat
  | .body _ => 2
  | .text _ => 1
  | .renderable inner => inner.maxLayers

namespace Session

/-- No targets. -/
def empty : Session := ⟨[]⟩

/-- The target of a name. -/
def get (s : Session) (name : String) : Except SessionError Target :=
  match s.targets.lookup name with
  | some target => .ok target
  | none => .error .noTarget

/-- Puts a target under a name, in place of the one that has it. -/
def put (s : Session) (name : String) (target : Target) : Session :=
  ⟨s.targets.filter (fun entry => entry.1 ≠ name) ++ [(name, target)]⟩

/-- Changes the target of a name, if there is one and it can be changed this way. -/
def update (s : Session) (name : String) (change : Target → Option Target) :
    Except SessionError (Reply × Session) := do
  let target ← s.get name
  match change target with
  | some changed => return (.done, s.put name changed)
  | none => throw .wrongKind

/-- Performs a step. -/
def perform (s : Session) : Step → Except SessionError (Reply × Session)
  | .create name target => .ok (.done, s.put name target)
  | .render name t => s.update name fun target => some (target.render t)
  | .renderInner name t => s.update name (Target.renderInner? t)
  | .set name html => s.update name fun target => some (target.setInnerHtml html)
  | .append name html =>
    s.update name fun target => some (target.setInnerHtml (target.innerHtml ++ html))
  | .copy name copyName => do
    let target ← s.get name
    return (.done, s.put copyName target)
  | .compare name otherName => do
    let target ← s.get name
    let other ← s.get otherName
    return (.comparison (target = other), s)
  | .wrap name => s.update name fun target => some (.renderable target)
  | .unwrap name => s.update name Target.inner?

/-- Whether a step leaves all targets with a kind that has a name. Only a further layer may lead
out of these kinds. -/
def admits (s : Session) : Step → Bool
  | .wrap name =>
    match s.get name with
    | .ok target => target.layers < target.maxLayers
    | .error _ => true
  | _ => true

/-- Performs a step, if the kinds that have a name are enough for it. -/
def step (s : Session) (x : Step) : Except SessionError (Reply × Session) :=
  if s.admits x then s.perform x else throw .wrongKind

end Session

/-- A render function that is bound to a target. -/
structure Renderer where
  target : String

/-- The renderer of a target that exists. -/
def Session.renderer (s : Session) (name : String) : Except SessionError Renderer := do
  let _ ← s.get name
  return ⟨name⟩

/-- Renders into the target that the renderer is bound to. -/
def Renderer.call (r : Renderer) (t : Template) (s : Session) :
    Except SessionError (Reply × Session) :=
  s.perform (.render r.target t)

end HtmlTemplate
