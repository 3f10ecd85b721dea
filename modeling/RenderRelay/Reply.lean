import RenderRelay.Wire.Field

/-!
# Replies

The value a command answers with. A reply is a kind with arguments of the
fields of that kind, as a command is an opcode with arguments.
-/

set_option autoImplicit false

namespace RenderRelay

open Wire (Field Arguments)

inductive Reply where
  | bool (value : Bool)
  | enum (value : Enum)
  | int (value : Int32)
  | uint (value : UInt32)
  | ints (values : List Int32)
  | display (value : Display)
  | context (value : Context)
  | surface (value : Surface)
  | configs (values : List Config)
  | initialized (ok : Bool) (major minor : Int32)
  deriving DecidableEq, Repr

namespace Reply

inductive Kind where
  | bool | enum | int | uint | ints | display | context | surface | configs | initialized
  deriving DecidableEq, Repr

namespace Kind

def all : List Kind :=
  [.bool, .enum, .int, .uint, .ints, .display, .context, .surface, .configs, .initialized]

def name : Kind → String
  | bool => "Bool"
  | enum => "Enum"
  | int => "Int"
  | uint => "Uint"
  | ints => "Ints"
  | display => "Display"
  | context => "Context"
  | surface => "Surface"
  | configs => "Configs"
  | initialized => "Initialized"

def number : Kind → UInt32
  | bool => 0
  | enum => 1
  | int => 2
  | uint => 3
  | ints => 4
  | display => 5
  | context => 6
  | surface => 7
  | configs => 8
  | initialized => 9

def ofNumber? (n : UInt32) : Option Kind := all.find? (·.number == n)

theorem ofNumber?_number (k : Kind) : ofNumber? k.number = some k := by cases k <;> rfl

theorem number_of_ofNumber? {n : UInt32} {k : Kind} (h : ofNumber? n = some k) :
    k.number = n := by
  simpa using List.find?_some h

@[reducible] def signature : Kind → List Field
  | bool => [.flag]
  | enum | uint => [.word]
  | int => [.int]
  | ints => [.ints]
  | display | context | surface => [.wide]
  | configs => [.wides]
  | initialized => [.flag, .int, .int]

end Kind

def kind : Reply → Kind
  | bool _ => .bool
  | enum _ => .enum
  | int _ => .int
  | uint _ => .uint
  | ints _ => .ints
  | display _ => .display
  | context _ => .context
  | surface _ => .surface
  | configs _ => .configs
  | initialized .. => .initialized

def ofArguments : (k : Kind) → Arguments k.signature → Reply
  | .bool, (b, ()) => .bool b
  | .enum, (n, ()) => .enum n
  | .int, (n, ()) => .int n
  | .uint, (n, ()) => .uint n
  | .ints, (ns, ()) => .ints ns
  | .display, (n, ()) => .display ⟨n⟩
  | .context, (n, ()) => .context ⟨n⟩
  | .surface, (n, ()) => .surface ⟨n⟩
  | .configs, (ns, ()) => .configs (ns.map Config.mk)
  | .initialized, (ok, major, minor, ()) => .initialized ok major minor

def arguments : (r : Reply) → Arguments r.kind.signature
  | .bool b => (b, ())
  | .enum n => (n, ())
  | .int n => (n, ())
  | .uint n => (n, ())
  | .ints ns => (ns, ())
  | .display ⟨n⟩ => (n, ())
  | .context ⟨n⟩ => (n, ())
  | .surface ⟨n⟩ => (n, ())
  | .configs cs => (cs.map Config.id, ())
  | .initialized ok major minor => (ok, major, minor, ())

theorem ofArguments_arguments (r : Reply) : ofArguments r.kind r.arguments = r := by
  cases r with
  | configs cs => simp [kind, arguments, ofArguments, Function.comp_def]
  | _ => rfl

theorem kind_ofArguments (k : Kind) (a : Arguments k.signature) : (ofArguments k a).kind = k := by
  cases k <;> rfl

theorem arguments_ofArguments (k : Kind) (a : Arguments k.signature) :
    HEq (ofArguments k a).arguments a := by
  cases k with
  | configs =>
    obtain ⟨ns, ⟨⟩⟩ := a
    have h : (ns.map Config.mk).map Config.id = ns := by simp [Function.comp_def]
    exact heq_of_eq (congrArg (·, ()) h)
  | _ => rfl

end Reply

end RenderRelay
