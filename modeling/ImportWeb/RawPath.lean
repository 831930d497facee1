import ImportWeb.Path
import ImportWeb.Text.Utf8

/-!
File paths as a file system keeps them: bytes, which need not be text. A path that was written as
a text has the bytes of that text, and its components are those that the text has.
-/

namespace ImportWeb

structure RawPath where
  bytes : List UInt8
  deriving DecidableEq, Repr, Inhabited

namespace RawPath

open Text

def slash : UInt8 := 0x2F

def dot : UInt8 := 0x2E

def ofString (s : String) : RawPath := ⟨utf8 s.toList⟩

/-- The path as it is shown, with replacement characters for what is no text. -/
def toString (p : RawPath) : String := String.ofList (decode p.bytes)

def anchor (p : RawPath) : Path.Anchor := .ofPieces dot (splitAtChar slash p.bytes)

/-- The pieces after the anchor. -/
def pieces (p : RawPath) : List (List UInt8) := p.anchor.behind (splitAtChar slash p.bytes)

def components (p : RawPath) : List (Component (List UInt8)) :=
  p.anchor.component?.toList ++ p.pieces.filterMap (Path.component? dot)

/-- The components of `p` below `base`, if those of `base` come first. -/
def below? (base p : RawPath) : Option (List (Component (List UInt8))) :=
  if base.components.isPrefixOf p.components then
    some (p.components.drop base.components.length)
  else none

end RawPath

/-- What stands for a path in a file system. -/
class FilePath (P : Type) where
  raw : P → RawPath

instance : FilePath RawPath := ⟨id⟩

instance : FilePath Path := ⟨fun p => ⟨Text.utf8 p.chars⟩⟩

end ImportWeb
