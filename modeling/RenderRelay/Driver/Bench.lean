import RenderRelay.Driver.Argument
import RenderRelay.Driver.Native
import RenderRelay.Text.Hex

/-!
# Bench libraries

Libraries to run a native driver on without hardware. They export chosen
symbols, note what reaches them and answer by fixed rules.
-/

set_option autoImplicit false

namespace RenderRelay

open Native (Function Outcome)

structure Bench where
  /-- The exports of the display library, if it can be opened. -/
  displayExports : Option (List Function)
  renderExports : Option (List Function)
  /-- The symbols that the lookup function knows. -/
  known : List String := []
  /-- What functions of the display library return for success or failure. -/
  verdict : Int32 := 1
  configs : Int32 := 3
  glError : Int32 := 0
  logsLookups : Bool := false
  /-- The calls so far, latest first. -/
  log : List (Function × List Argument) := []
  nextHandle : UInt64 := 0x101
  nextName : UInt32 := 1000
  deriving Repr

namespace Bench

/-! Exports -/

def displayEntries : List EntryPoint := EntryPoint.all.filter (·.library = .egl)

def renderEntries : List EntryPoint := EntryPoint.all.filter (·.library = .gles)

def withoutLookup (entries : List EntryPoint) : List EntryPoint :=
  entries.filter (· ≠ .eglGetProcAddress)

def exports (provider suffix : String) (entries : List EntryPoint) : List Function :=
  entries.map fun e => ⟨provider, e.symbol ++ suffix⟩

/-- The entries at places that leave the remainder `r` when divided by `n`. -/
def every (n r : Nat) (entries : List EntryPoint) : List EntryPoint :=
  (entries.zipIdx.filter fun e => e.2 % n = r).map Prod.fst

/-- The exports of the library of a name. -/
def library? : String → Option (List Function)
  | "egl_full" => some (exports "egl" "" displayEntries)
  | "egl_noproc" => some (exports "egl" "" (withoutLookup displayEntries))
  | "egl_proconly" => some (exports "egl" "" [.eglGetProcAddress])
  | "egl_half" => some (exports "egl" "" (every 2 0 displayEntries))
  | "egl_suffixed" =>
    some (exports "egl" "ARB" (withoutLookup displayEntries)
      ++ exports "egl" "EXT" (withoutLookup displayEntries))
  | "egl_withgl" => some (exports "egl" "" displayEntries ++ exports "eglgl" "" renderEntries)
  | "gles_full" => some (exports "gles" "" renderEntries)
  | "gles_arb" => some (exports "gles" "ARB" renderEntries)
  | "gles_ext" => some (exports "gles" "EXT" renderEntries)
  | "gles_both" => some (exports "gles" "ARB" renderEntries ++ exports "gles" "EXT" renderEntries)
  | "gles_all" =>
    some (exports "gles" "" renderEntries ++ exports "gles" "ARB" renderEntries
      ++ exports "gles" "EXT" renderEntries)
  | "gles_mixed" =>
    some (exports "gles" "" (every 4 0 renderEntries)
      ++ exports "gles" "ARB" (every 4 1 renderEntries)
      ++ exports "gles" "EXT" (every 4 2 renderEntries))
  | "gles_empty" => some []
  | "gles_withegl" =>
    some (exports "gles" "" renderEntries ++ exports "glesegl" "" (withoutLookup displayEntries))
  | _ => none

def opens (b : Bench) : EntryPoint.Library → Bool
  | .egl => b.displayExports.isSome
  | .gles => b.renderExports.isSome

def exported (b : Bench) (library : EntryPoint.Library) (symbol : String) : Option Function :=
  let functions := match library with
    | .egl => b.displayExports
    | .gles => b.renderExports
  (functions.getD []).find? (·.symbol == symbol)

def isRenderSymbol (symbol : String) : Bool := renderEntries.any (·.candidates.contains symbol)

def procAddress (b : Bench) (lookup : Function) (symbol : String) : Option Function × Bench :=
  (if b.known.contains symbol && isRenderSymbol symbol then some ⟨"proc", symbol⟩ else none,
   if b.logsLookups then { b with log := (lookup, [.text symbol]) :: b.log } else b)

/-! What a function sees -/

/-- The pairs of an attribute list, up to the end marker in the place of a key. -/
def pairs : List Int32 → List Int32
  | key :: value :: rest =>
    if key = EGL.none then [key] else key :: value :: pairs rest
  | rest => rest

/-- Stored bytes are noted in full. -/
def dump (bytes : Bytes) : Argument := .text (Text.hexBytes bytes)

/-- Flags are numbers and floats are bits to a function. -/
def plain : Argument → Argument
  | .flag b => .int (if b then 1 else 0)
  | .single x => .nat x.bits.toNat
  | .bytes bs => dump bs
  | a => a

/-- The arguments of a call as the log shows them. -/
def seen : Call → List Argument
  | .chooseConfig display attribs max => Argument.ofCall (.chooseConfig display (pairs attribs) max)
  | .createContext display config share attribs =>
    Argument.ofCall (.createContext display config share (pairs attribs))
  | .createWindowSurface display config window attribs =>
    Argument.ofCall (.createWindowSurface display config window (pairs attribs))
  | .createPbufferSurface display config attribs =>
    Argument.ofCall (.createPbufferSurface display config (pairs attribs))
  | .generate _ names => [.nat names.length]
  | .getIntegerv pname _ => [.nat pname.toNat]
  | .bufferData target size data usage =>
    [.nat target.toNat, .int size.toInt,
     .ofOption (data.map fun d => dump (d.take size.toInt.toNat)), .nat usage.toNat]
  | .bufferSubData target offset data =>
    [.nat target.toNat, .int offset.toInt, .nat data.length, dump data]
  | .texImage2D image =>
    (Argument.ofCall (.texImage2D { image with pixels := image.pixels.map (·.take 1) })).map plain
  | .shaderSource shader sources =>
    .nat shader.toNat :: .nat sources.length :: sources.map fun s => dump s.toUTF8.toList
  | .location _ program name => [.nat program.toNat, dump name.toUTF8.toList]
  | c => (Argument.ofCall c).map plain

/-! What a function does -/

def takeHandle (b : Bench) : Outcome × Bench :=
  ({ value := b.nextHandle }, { b with nextHandle := b.nextHandle + 1 })

def takeNames (b : Bench) (n : Nat) : Outcome × Bench :=
  ({ written := (List.range n).map fun i => (b.nextName + UInt32.ofNat i).toUInt64 },
   { b with nextName := b.nextName + UInt32.ofNat n })

/-- The numbers that an integer query writes. -/
def integers (pname : Enum) : List UInt64 :=
  if pname = GL.numCompressedTextureFormats ∨ pname = GL.numShaderBinaryFormats then [2]
  else
    let count :=
      if [GL.blendColor, GL.colorClearValue].contains pname then 4
      else if [GL.depthRange, GL.maxViewportDims, GL.aliasedPointSizeRange,
        GL.aliasedLineWidthRange, GL.compressedTextureFormats,
        GL.shaderBinaryFormats].contains pname then 2
      else 1
    (List.range count).map fun i => UInt64.ofNat (pname.toNat % 256 + i)

def ofInt (n : Int32) : Outcome := { value := n.toUInt32.toUInt64 }

def outcome (b : Bench) : Call → Outcome × Bench
  | .getDisplay native => ({ value := native.id + 1 }, b)
  | .initDisplay _ => ({ ofInt b.verdict with written := [1, 5] }, b)
  | .terminateDisplay _ | .destroyContext .. | .destroySurface .. | .makeCurrent ..
  | .releaseThread | .swapBuffers .. => (ofInt b.verdict, b)
  | .chooseConfig _ _ size =>
    let filled := min size.toInt.toNat b.configs.toInt.toNat
    ({ ofInt b.verdict with
       count := b.configs
       written := (List.range filled).map fun i => UInt64.ofNat (i + 1) }, b)
  | .createContext .. | .createWindowSurface .. | .createPbufferSurface .. | .createShader _
  | .createProgram => b.takeHandle
  | .eglGetError => (ofInt EGL.success, b)
  | .getError => (ofInt b.glError, b)
  | .generate _ names => b.takeNames names.length
  | .checkFramebufferStatus _ => ({ value := GL.framebufferComplete.toUInt64 }, b)
  | .isEnabled cap => ({ value := UInt64.ofNat (cap.toNat % 256) }, b)
  | .location _ _ name => ({ value := UInt64.ofNat name.utf8ByteSize }, b)
  | .getIntegerv pname _ => ({ written := integers pname }, b)
  | _ => ({}, b)

def invoke (b : Bench) (f : Function) (c : Call) : Outcome × Bench :=
  { b with log := (f, seen c) :: b.log }.outcome c

instance : Native.Host Bench := ⟨opens, exported, procAddress, invoke⟩

end Bench

end RenderRelay
