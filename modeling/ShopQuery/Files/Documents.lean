import ShopQuery.Document.Basic
import ShopQuery.Files.Tree
import ShopQuery.Json.Reader

/-!
# Documents in files

A request is read from a file, and a result document is written to one.
-/

namespace ShopQuery

namespace Files

def readJson (files : Files) (path : String) : Except Error Json := do
  let text ← (files.readText path).mapError fun fault =>
    .read s!"Failed to read {path}: {fault.message}"
  (Json.read text).mapError fun fault => .parse s!"Invalid JSON in {path}: {fault.message}"

def writeDocument (files : Files) (path : String) (document : Document) : Except Error Files :=
  (files.write path (Utf8.encode document.fileText)).mapError fun fault =>
    .write s!"Failed to write {path}: {fault.message}"

end Files

end ShopQuery
