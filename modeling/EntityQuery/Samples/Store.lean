import EntityQuery.Samples.Build

/-!
# The sample data model

Standard objects of the data service (accounts, their contacts, users) and custom objects
(shipments and their bins), declared in two packages below a module path; with them the parts
of the standard library they use (`time.Time`, `sync.Mutex`), whose fields are unexported.

Account and Contact refer to each other; users form a management chain; an industry is a
picklist value, never an entity. Shipments and bins declare their entity names.
-/

set_option autoImplicit false

namespace EntityQuery.Samples

/-- `time.Time`. -/
def timeType : TypeExpr := .plain "time" "Time"

/-- The standard library packages the samples use. -/
def libraryPackages : List Package := [
  { path := "time", name := "time", decls := [
      structDecl "Time" [plain "wall" (.basic .uint64), plain "ext" (.basic .int64),
        plain "loc" (.pointer (.plain "time" "Location"))] [],
      structDecl "Location" [plain "name" str] [],
      defined "Duration" (.basic .int64)] },
  { path := "sync", name := "sync", decls := [
      structDecl "Mutex" [plain "state" (.basic .int32), plain "sema" (.basic .uint32)] []] }]

/-- The package of standard objects below a module path. -/
def storePackage (module : String) : Package :=
  let path := module ++ "/store"
  let st (n : String) : TypeExpr := .plain path n
  { path, name := "store", decls := [
    structDecl "Account" [tagged "Attributes" (.map str str) (json "attributes,omitempty"),
      tagged "ID" str (json "Id,omitempty" ++ "              " ++ idTag),
      tagged "Name" str (json "Name"),
      tagged "Industry" (st "Industry") (json "Industry,omitempty"),
      tagged "AnnualRevenue" (.pointer (.basic .float64)) (json "AnnualRevenue,omitempty"),
      tagged "Owner" (.pointer (st "User")) (json "Owner,omitempty"),
      tagged "Contacts" (.slice (st "Contact")) (json "Contacts,omitempty"),
      tagged "CreatedDate" timeType (json "CreatedDate")] [],
    structDecl "Contact" [tagged "ID" str (json "Id,omitempty" ++ " " ++ idTag),
      tagged "FirstName" str (json "FirstName"), tagged "LastName" str (json "LastName"),
      tagged "Email" str (json "Email,omitempty"),
      tagged "Account" (.pointer (st "Account")) (json "Account,omitempty")]
      [setMethod "SetID" [str] "ID" ""],
    structDecl "User" [tagged "ID" str (json "Id,omitempty" ++ " " ++ idTag),
      tagged "Name" str (json "Name"), tagged "Email" str (json "Email"),
      tagged "Manager" (.pointer (st "User")) (json "Manager,omitempty"),
      tagged "IsActive" (.basic .bool) (json "IsActive")] [],
    defined "Industry" str] }

/-- The package of custom objects below a module path. -/
def warehousePackage (module : String) : Package :=
  let path := module ++ "/warehouse"
  let wh (n : String) : TypeExpr := .plain path n
  { path, name := "warehouse", decls := [
    withId "Shipment" [tagged "Name" str (soql "Name"), tagged "Carrier" str (soql "Carrier__c"),
      tagged "ShippedOn" (.pointer timeType) (soql "Shipped_On__c"),
      tagged "Bins" (.slice (.pointer (wh "Bin"))) (soql "Bins__r"),
      tagged "Account" (.pointer (.plain (module ++ "/store") "Account")) (soql "Account__r"),
      tagged "Internal" str (soql "-")] [nameMethod "Shipment__c" false],
    withId "Bin" [tagged "Code" str (soql "Code__c"),
      tagged "Weight" (.basic .float64) (soql "Weight__c"),
      tagged "Shipment" (.pointer (wh "Shipment")) (soql "Shipment__r")]
      [nameMethod "Bin__c" false]] }

end EntityQuery.Samples
