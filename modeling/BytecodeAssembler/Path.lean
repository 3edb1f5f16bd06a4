/-!
# File paths

`Path.withoutExtension` cuts the extension off a path, and `Path.fileName` gives the last part of a
path that may be written with slashes or backslashes, with a drive or a network share in front.
-/

namespace BytecodeAssembler.Path

/-! ## Extensions -/

/-- The last component of a path with slashes, and what stands before it, its slash included. -/
def splitLast (cs : List Char) : List Char × List Char :=
  let last := (cs.reverse.takeWhile (· != '/')).reverse
  (cs.take (cs.length - last.length), last)

/-- A file name up to its last dot; dots at its front open no extension. -/
def stem (name : List Char) : List Char :=
  let dots := name.takeWhile (· == '.')
  let rest := name.dropWhile (· == '.')
  if rest.contains '.' then
    dots ++ ((rest.reverse.dropWhile (· != '.')).drop 1).reverse
  else name

/-- A path without its extension. -/
def withoutExtension (path : String) : String :=
  let (before, last) := splitLast path.toList
  String.ofList (before ++ stem last)

/-! ## File names -/

def isSeparator (c : Char) : Bool :=
  c == '/' || c == '\\'

/-- The drive letter or network share at the front of a path taken off.  A share runs up to the
second separator after its two leading ones, and takes the whole path when there are not two; a long
share name begins further on. -/
def withoutDrive (cs : List Char) : List Char :=
  let isLong := (cs.take 8).map (fun c => if c == '/' then '\\' else c.toUpper) ==
    ['\\', '\\', '?', '\\', 'U', 'N', 'C', '\\']
  match cs with
  | a :: b :: rest =>
    if isSeparator a && isSeparator b then
      let host := if isLong then cs.drop 8 else rest
      let share := host.dropWhile (!isSeparator ·)
      (share.drop 1).dropWhile (!isSeparator ·)
    else if b == ':' then rest
    else cs
  | _ => cs

/-- The last part of a path. -/
def fileName (path : String) : String :=
  String.ofList ((withoutDrive path.toList).reverse.takeWhile (!isSeparator ·)).reverse

end BytecodeAssembler.Path
