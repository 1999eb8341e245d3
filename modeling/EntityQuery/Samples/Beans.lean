import EntityQuery.Samples.Store

/-!
# Sample types

One package of sample types, a few for each rule of the mapping: plain and recursive beans,
containers, explicit and empty entity names on value and pointer receivers, attributes carriers
of every shape, identifiers of several types, setters that take the identifier, that lose it,
that take two arguments or a number, embedded structs (unexported, through pointers, shadowed,
ambiguous, several levels deep, not structs, library types), tags, every scalar kind, fields
that cannot be mapped, chains and cycles of relationships, a generic type, and types of the
sample data model.
-/

set_option autoImplicit false

namespace EntityQuery.Samples

/-- The declarations of the sample package at `path`, whose types use the sample data model
below `module`. -/
def beanDecls (path module : String) : List TypeDecl :=
  let fx (n : String) : TypeExpr := .plain path n
  [structDecl "SimpleBean" [tagged "ID" str idTag, tagged "Name" str (soql "Name"), tagged "Description" str (soql "Description")] [],
    withId "RecursiveBean" [tagged "Recursive" (.pointer (fx "RecursiveBean")) (soql "RecursiveBean")] [],
    withId "ContainerBean" [tagged "Beans" (.slice (fx "SimpleBean")) (soql "Beans"),
      tagged "More" (.array 1 (fx "SimpleBean")) (soql "MoreBeans")] [],
    structDecl "NoIDBean" [plain "Name" str] [],
    structDecl "UnannotatedBean" [plain "ID" str, plain "Name" str] [],
    withId "ExplicitlyNamed" [] [nameMethod "ExplicitName__c" false],
    withId "PtrNamed" [] [nameMethod "PtrNamed__c" true],
    structDecl "EmptyNamed" [plain "Name" str] [nameMethod "" false],
    defined "BeanStatus" str,
    structDecl "AttributesBean" [tagged "Attributes" (.map str str) (json "attributes"),
      tagged "ID" str (json "Id" ++ "      " ++ soql ",id"), tagged "Ignored" str (json "-"),
      tagged "Skipped" str (soql "-"), plain "Created" timeType, plain "Status" (fx "BeanStatus"),
      plain "hidden" str] [],
    structDecl "AnyAttributes" [tagged "Attributes" (.map str .any) (soql "attributes"), plain "Name" str] [],
    structDecl "IntKeyAttributes" [tagged "Attributes" (.map int str) (soql "attributes"), plain "Name" str] [],
    structDecl "PtrAttributes" [tagged "Attrs" (.pointer (.map str str)) (soql "attributes"), plain "Name" str] [],
    structDecl "CaseAttributes" [plain "Attributes" (.map str str), plain "Name" str] [],
    structDecl "NamedMapAttributes" [tagged "Meta" (fx "AttrMap") (json "attributes"),
      tagged "Other" (fx "AttrMap") (json "attributes")] [],
    defined "AttrMap" (.map str int),
    structDecl "TwoIDs" [tagged "First" str (soql "First,id"), tagged "Second" str (soql "Second,id")] [],
    structDecl "PtrID" [tagged "ID" (.pointer str) idTag, plain "Name" str] [],
    structDecl "IntID" [tagged "ID" int idTag, plain "Name" str] [],
    defined "MyID" str,
    structDecl "NamedID" [tagged "ID" (fx "MyID") idTag] [],
    structDecl "PtrNamedID" [tagged "ID" (.pointer (fx "MyID")) idTag] [],
    withId "SetterBean" [] [setMethod "SetID" [str] "ID" "set:"],
    withId "ValueSetter" [] [{ setMethod "SetID" [str] "ID" "lost:" with pointerReceiver := false }],
    withId "WrongArity" [] [setMethod "SetID" [str, str] "ID" ""],
    structDecl "PtrSetter" [tagged "ID" (.pointer str) idTag] [setMethod "SetID" [.pointer str] "ID" "p:"],
    structDecl "IntSetter" [tagged "ID" int idTag] [setMethod "SetID" [int] "ID" ""],
    structDecl "NamedSetter" [tagged "ID" (fx "MyID") idTag] [setMethod "SetID" [fx "MyID"] "ID" "n:"],
    withId "SetterOnOther" [plain "Name" str] [setMethod "SetName" [str] "Name" ""],
    withId "baseFields" [plain "Name" str] [],
    structDecl "EmbeddingBean" [embed (fx "baseFields"), plain "Extra" str] [],
    withId "Base" [plain "Created" timeType, plain "Owner" (.pointer (.plain (module ++ "/store") "User"))]
      [setMethod "SetID" [str] "ID" "base:"],
    structDecl "Derived" [embed (fx "Base"), plain "Name" str] [],
    structDecl "PtrEmbedded" [embed (.pointer (fx "Base")), plain "Name" str] [],
    structDecl "Shadow" [embed (fx "Base"), tagged "ID" str (soql "ShadowId"), plain "Name" str] [],
    structDecl "Left" [plain "Name" str, plain "L" int] [],
    structDecl "Right" [plain "Name" str, plain "R" int] [],
    structDecl "Ambiguous" [embed (fx "Left"), embed (fx "Right"), tagged "ID" str (soql ",id")] [],
    structDecl "Deep" [embed (fx "Derived"), plain "Level" int] [],
    structDecl "EmbeddedNonStruct" [embed (fx "BeanStatus"), plain "Name" str] [],
    structDecl "EmbeddedTime" [embed timeType, plain "Name" str] [],
    structDecl "EmbeddedOpaqueNamed" [embed (fx "ExplicitlyNamed"), plain "Name" str] [],
    structDecl "JSONTags" [tagged "A" str (json "alpha"), tagged "B" str (json "-"), tagged "C" str (json "-,"),
      tagged "D" str (json ",omitempty"), tagged "E" str (json "echo,omitempty" ++ " " ++ soql "Echo"),
      tagged "F" str (json "-" ++ " " ++ soql "Foxtrot"), tagged "G" str (json "-" ++ " " ++ soql ""),
      tagged "H" str (soql "-,id"), tagged "I" str (soql "India, id"), tagged "J" str (soql ",ID"),
      tagged "K" str (soql "Kilo,,id,extra"), tagged "L" str (soql "-" ++ "  " ++ json "lima")] [],
    structDecl "Scalars" [plain "B" (.basic .bool), plain "I" int, plain "I8" (.basic .int8),
      plain "U64" (.basic .uint64), plain "UP" (.basic .uintptr),
      plain "F32" (.basic .float32), plain "F64" (.pointer (.basic .float64)),
      plain "S" str, plain "Bs" (.slice (.basic .byte)), plain "M" (.map str (fx "SimpleBean")),
      plain "T" timeType, plain "TP" (.pointer timeType), plain "Mu" (.plain "sync" "Mutex"),
      plain "Tags" (.slice str), plain "Ints" (.array 3 int),
      plain "PP" (.pointer (.pointer int)), plain "St" (fx "BeanStatus")] [],
    withId "Chan" [plain "C" (.chan int)] [],
    structDecl "Func" [plain "F" .func] [],
    structDecl "Iface" [plain "V" .any] [],
    structDecl "Anonymous" [plain "Inner" (.struct (Members.ofList [plain "X" int]))] [],
    structDecl "SliceOfChan" [plain "S" (.slice (.chan int))] [],
    structDecl "ArrayOfFunc" [plain "A" (.array 2 .func)] [],
    structDecl "Complex" [plain "C" (.basic .complex128)] [],
    structDecl "Unsafe" [plain "P" (.basic .unsafePointer)] [],
    structDecl "SliceOfAnon" [plain "S" (.slice (.struct (Members.ofList [plain "X" int])))] [],
    structDecl "PtrChan" [plain "P" (.pointer (.chan int))] [],
    structDecl "EmbeddedBad" [embed (fx "Bad"), plain "Name" str] [],
    withId "Good" [plain "Bad" (.pointer (fx "Bad"))] [],
    withId "Bad" [plain "C" (.chan str)] [],
    withId "Middle" [plain "Good" (.slice (fx "Good"))] [],
    withId "Nested" [tagged "Matrix" (.slice (.slice (fx "SimpleBean"))) (soql "Matrix"),
      tagged "Times" (.slice timeType) (soql "Times"), tagged "ByKey" (.map str (fx "Nested")) (soql "ByKey"),
      tagged "Ptrs" (.slice (.pointer (fx "SimpleBean"))) (soql "Ptrs"),
      tagged "Arr" (.array 0 (fx "SimpleBean")) (soql "Arr"), tagged "Named" (fx "NamedSlice") (soql "Named"),
      tagged "Stat" (.slice (fx "BeanStatus")) (soql "Stat")] [],
    defined "NamedSlice" (.slice (fx "SimpleBean")),
    withId "L1" [plain "Next" (.pointer (fx "L2"))] [],
    withId "L2" [plain "Next" (.pointer (fx "L3"))] [],
    withId "L3" [plain "Next" (.pointer (fx "L4"))] [],
    withId "L4" [plain "Next" (.pointer (fx "L5")), plain "Items" (.slice (fx "L5"))] [],
    withId "L5" [plain "Next" (.pointer (fx "L6"))] [],
    withId "L6" [plain "Last" (.pointer (fx "L7"))] [],
    withId "L7" [plain "Name" str] [],
    withId "Tree" [plain "Left" (.pointer (fx "Tree")), plain "Right" (.pointer (fx "Tree")),
      plain "Children" (.slice (fx "Tree"))] [],
    withId "Graph" [plain "A" (.pointer (fx "NodeA")), plain "Self" (.pointer (fx "Graph"))] [],
    structDecl "NodeA" [plain "Name" str, plain "B" (.pointer (fx "NodeB"))] [],
    structDecl "NodeB" [plain "Name" str, plain "Back" (.pointer (fx "Graph")),
      plain "C" (.slice (fx "NodeC"))] [],
    structDecl "NodeC" [plain "Name" str, plain "A" (.pointer (fx "NodeA"))] [],
    structDecl "Unicode" [tagged "ID" str (soql "Ид,id"), plain "Ñame" str, tagged "Città" str (json "città"),
      tagged "Emoji" str (soql "😀__c")] [nameMethod "Ünïcødé__c" false],
    { name := "Page", params := ["T"],
      type := .struct (Members.ofList [plain "Items" (.slice (.param "T")), plain "Total" int]) },
    withId "Holder" [plain "Page" (.named path "Page" (.cons (fx "SimpleBean") .nil)),
      plain "Pages" (.slice (.named path "Page" (.cons (fx "Holder") .nil)))] [],
    structDecl "Empty" [] [],
    structDecl "OnlyUnexported" [plain "id" str, plain "name" str] [],
    structDecl "OnlySkipped" [tagged "A" str (soql "-"), tagged "B" str (json "-")] [],
    structDecl "Wide" (["A", "B", "C", "D", "E", "F", "G", "H", "I", "J", "K", "L", "M", "N", "O", "P",
      "Q", "R", "S", "T", "U", "V", "W", "X", "Y", "Z"].map fun n => plain n str) [],
    withId "WithStore" [plain "Account" (.pointer (.plain (module ++ "/store") "Account")),
      plain "Shipment" (.plain (module ++ "/warehouse") "Shipment"),
      plain "Users" (.slice (.pointer (.plain (module ++ "/store") "User"))),
      plain "Industry" (.plain (module ++ "/store") "Industry")] [],
    structDecl "Attrs2" [tagged "Attributes" (.map str str) (soql "attributes"),
      tagged "Attributes2" (.map str str) (soql "attributes"), tagged "ID" str idTag] [],
    structDecl "NilAttrs" [tagged "Attributes" (.map str str) (json "attributes")] [],
    structDecl "PtrToPtr" [tagged "ID" (.pointer (.pointer str)) idTag,
      plain "Sub" (.pointer (.pointer (fx "SimpleBean")))] []]

/-- The sample package at `path`. -/
def beanPackage (path module : String) : Package :=
  { path, name := Package.defaultName path, decls := beanDecls path module }

/-- The sample package, the sample data model and the library packages they use. -/
def sampleUniverse (path module : String) : Universe :=
  ⟨[beanPackage path module, storePackage module, warehousePackage module] ++ libraryPackages⟩

end EntityQuery.Samples
