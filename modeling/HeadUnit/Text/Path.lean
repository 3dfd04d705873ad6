/-!
# Paths

Paths are texts whose parts are divided by slashes. `Path.clean` is the
shortest path that means the same without looking at any folder: empty parts
and dots vanish, and a part vanishes together with the double dot after it.
-/

namespace HeadUnit.Path

/-- Adds a part to the parts before it, which are in reverse order. At the root
    a double dot stays at the root. -/
def push (rooted : Bool) (done : List String) (part : String) : List String :=
  if part = "" || part = "." then done
  else if part = ".." then
    match done with
    | [] => if rooted then [] else [".."]
    | p :: rest => if p = ".." then ".." :: p :: rest else rest
  else part :: done

/-- The shortest path with the same meaning. -/
def clean (path : String) : String :=
  let rooted := path.startsWith "/"
  let parts := ((path.splitOn "/").foldl (push rooted) []).reverse
  let body := "/".intercalate parts
  if rooted then "/" ++ body else if body = "" then "." else body

/-- The path of something in a folder. -/
def join (folder name : String) : String :=
  if folder = "" then clean name else clean (folder ++ "/" ++ name)

/-- The last part of a path. -/
def name (path : String) : String :=
  let chars := (path.toList.reverse.dropWhile (· == '/')).reverse
  if path = "" then "."
  else if chars = [] then "/"
  else String.ofList (chars.reverse.takeWhile (· != '/')).reverse

/-- The folder of a path. -/
def folder (path : String) : String :=
  match (path.splitOn "/").reverse with
  | [] => "."
  | [_] => "."
  | _ :: parts =>
    let front := "/".intercalate parts.reverse
    if front = "" then "/" else clean front

end HeadUnit.Path
