/-!
# Paths

Paths are texts with slashes between their components. Repeated slashes, a slash at the end and single dots
name no component, except for a dot at the very front.
-/

namespace PointStream.Path

/-- Drops what names no component from the end of a path, which is given last character first. -/
def trimEnd : List Char → List Char
  | '/' :: rest => trimEnd rest
  | ['.'] => []
  | '.' :: '/' :: rest => trimEnd rest
  | reversed => reversed

/-- What a path begins with before its components: a root slash, or a dot that stands for the current
directory. -/
def head (cs : List Char) : List Char :=
  match cs with
  | '/' :: _ => ['/']
  | ['.'] | '.' :: '/' :: _ => ['.']
  | _ => []

/-- The path without its last component; none for a root and for a path without components. -/
def parent? (path : String) : Option String :=
  let cs := path.toList
  let head := head cs
  match trimEnd (cs.drop head.length).reverse with
  | [] => if head = ['.'] then some "" else none
  | body =>
    let above := trimEnd ((body.dropWhile (· ≠ '/')).drop 1)
    some (String.ofList (head ++ above.reverse))

end PointStream.Path
