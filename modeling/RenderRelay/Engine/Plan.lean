import RenderRelay.Engine.Scope

/-!
# Plans

What a command without reply amounts to on a given shadow: nothing, an
error, or a change of the shadow together with a driver call. A plan may
first have to consult a driver limit. Plans are data; `Plan.run` carries
them out.
-/

set_option autoImplicit false

namespace RenderRelay

inductive Plan where
  /-- There is nothing to do. -/
  | rest
  /-- The shadow holds the value already. -/
  | elide
  | reject (error : Enum)
  /-- A change and a call that cannot fail in the driver. -/
  | apply (change : Shadow → Shadow) (call : Call)
  /-- A change and a call that may fail in the driver. -/
  | submit (change : Shadow → Shadow) (call : Call)
  | consult (limit : Limit) (next : Int32 → Plan)

namespace Plan

def require (ok : Bool) (error : Enum) (next : Plan) : Plan := if ok then next else reject error

/-- Goes on only with a value that the interface names. -/
def checkEnum (ok : Bool) (next : Plan) : Plan := require ok GL.invalidEnum next

/-- Goes on only with a value in range. -/
def checkValue (ok : Bool) (next : Plan) : Plan := require ok GL.invalidValue next

/-- Goes on only with a value that differs from the one held. -/
def unlessHeld {α : Type} [DecidableEq α] (held wanted : α) (next : Plan) : Plan :=
  if held = wanted then elide else next

def run {δ : Type} [Driver δ] : Plan → Scope δ → Scope δ
  | rest, s => s
  | elide, s => s.elide
  | reject error, s => s.reject error
  | apply change call, s => ({ s with shadow := change s.shadow }.forward call).2
  | submit change call, s => ({ s with shadow := change s.shadow }.submit call).2
  | consult limit next, s =>
    let (value, s) := s.limit limit
    (next value).run s

end Plan

end RenderRelay
