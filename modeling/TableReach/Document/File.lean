/-!
# Files
-/

namespace TableReach

/-- What is found where a file should be. -/
inductive File where
  /-- Nothing. -/
  | absent
  /-- Something that cannot be read as text. -/
  | unreadable (reason : String)
  /-- A text. -/
  | text (content : String)
deriving DecidableEq

namespace File

/-- Why a file that is not there cannot be read. -/
def absence : String :=
  "No such file or directory (os error 2)"

/-- The content of a file, or why it cannot be read. -/
def content : File → Except String String
  | absent => .error absence
  | unreadable reason => .error reason
  | text content => .ok content

end File
end TableReach
