/-!
# Library and opaque packages

Types from the standard library are never entities: a package is a library package when the
first element of its path is one of the standard library's top-level directories (the empty path
counts as library too). A configured list of opaque package paths adds more: a package is opaque
when it is a library package, equals one of the paths, or lies below one (the path followed by
`/` starts it).
-/

set_option autoImplicit false

namespace EntityQuery

/-- The top-level directories of the standard library. -/
def libraryRoots : List String :=
  ["archive", "bufio", "builtin", "bytes", "cmp", "compress", "container", "context", "crypto",
   "database", "debug", "embed", "encoding", "errors", "expvar", "flag", "fmt", "go", "hash",
   "html", "image", "index", "io", "iter", "log", "maps", "math", "mime", "net", "os", "path",
   "plugin", "reflect", "regexp", "runtime", "slices", "sort", "strconv", "strings", "structs",
   "sync", "syscall", "testing", "text", "time", "unicode", "unique", "unsafe", "weak"]

/-- The first element of a package path. -/
def pathRoot (path : String) : String :=
  String.ofList (path.toList.takeWhile (· != '/'))

/-- A package of the standard library (or the empty path). -/
def isLibraryPackage (path : String) : Bool :=
  path == "" || libraryRoots.contains (pathRoot path)

/-- A path equals a configured path or lies below it. -/
def isUnder (path root : String) : Bool :=
  path == root || (root ++ "/").toList.isPrefixOf path.toList

/-- A package whose types are values, never entities. -/
def isOpaquePackage (opaquePaths : List String) (path : String) : Bool :=
  isLibraryPackage path || opaquePaths.any (isUnder path)

end EntityQuery
