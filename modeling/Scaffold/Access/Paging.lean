import Scaffold.Value.Basic

/-!
# Paging

When a page of records is taken to have a page after it. The rule is used on pages and written into
the generated script.
-/

namespace Scaffold.Paging

/-- A page has another one after it if it came back full. -/
def hasMore (returned pageSize : Value) : Bool := returned.same pageSize

/-- The rule in a script, on the names of the number of records and of the size of a page. -/
def hasMoreExpression (returned pageSize : String) : String := returned ++ " === " ++ pageSize

/-- The name of the number of records where none is given. -/
def returnedName : String := "returned"

/-- The name of the size of a page where none is given. -/
def pageSizeName : String := "pageSize"

end Scaffold.Paging
