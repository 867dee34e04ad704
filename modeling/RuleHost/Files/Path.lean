/-! Paths of files: parts with slashes between them. -/

namespace RuleHost.Files

def split : List Char → List (List Char)
  | [] => [[]]
  | c :: rest =>
    match split rest with
    | [] => [[c]]
    | part :: parts => if c == '/' then [] :: part :: parts else (c :: part) :: parts

def parts (path : String) : List String := (split path.toList).map String.ofList

/-- Whether a part leads nowhere: it is empty, or a dot. -/
def isIdle (part : String) : Bool := part == "" || part == "."

/-- Drops idle parts at the end, except for the first part of a path. -/
def trim : List String → List String
  | [] => []
  | first :: rest => first :: (rest.reverse.dropWhile isIdle).reverse

/-- The path of the folder that a path lies in, empty for a path of one part. -/
def folderOf (path : String) : String := "/".intercalate (trim (trim (parts path)).dropLast)

end RuleHost.Files
