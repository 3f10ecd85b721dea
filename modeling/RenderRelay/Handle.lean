/-!
# Handles

Opaque handles of the display system. Equality is the only operation on
them, and zero stands for "no object".
-/

set_option autoImplicit false

namespace RenderRelay

structure Display where
  id : UInt64
  deriving DecidableEq, Repr

structure Context where
  id : UInt64
  deriving DecidableEq, Repr

structure Surface where
  id : UInt64
  deriving DecidableEq, Repr

structure Config where
  id : UInt64
  deriving DecidableEq, Repr

structure NativeDisplay where
  id : UInt64
  deriving DecidableEq, Repr

structure NativeWindow where
  id : UInt64
  deriving DecidableEq, Repr

def Display.none : Display := ⟨0⟩

def Context.none : Context := ⟨0⟩

def Surface.none : Surface := ⟨0⟩

end RenderRelay
