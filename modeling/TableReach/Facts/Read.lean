import TableReach.Document.File
import TableReach.Document.Read
import TableReach.Facts.Decode
import TableReach.Failure

/-!
# Reading facts
-/

namespace TableReach

/-- The facts of a text in a format; `origin` says where the text is from. -/
def Facts.read (format : Format) (text origin : String) : Except Failure Facts :=
  match (Document.read? format text).bind (Facts.decode format) with
  | some facts => .ok facts
  | none => .error (.invalidFacts origin "")

/-- The facts of a file. -/
def Facts.ofFile (path : String) (file : File) : Except Failure Facts :=
  match file.content with
  | .error reason => .error (.unreadableFile path reason)
  | .ok text => Facts.read (Format.ofPath path) text path

end TableReach
