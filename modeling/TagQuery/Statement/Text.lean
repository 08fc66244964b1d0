import TagQuery.Schema.Dialect
import TagQuery.Statement.Basic

/-!
The SQL text of a statement: its clauses in their fixed order, one space between
neighbours, absent clauses left out.
-/

namespace TagQuery

/-- Items with a comma and a space between neighbours. -/
def commaList (items : List String) : String :=
  ", ".intercalate items

/-- A list in parentheses. -/
def tuple (items : List String) : String :=
  "(" ++ commaList items ++ ")"

def JoinKind.keyword : JoinKind → String
  | .inner => "INNER"
  | .left => "LEFT"
  | .right => "RIGHT"

def Join.text (join : Join) : String :=
  join.kind.keyword ++ " JOIN " ++ join.table ++ " ON " ++ join.condition

def Direction.keyword : Direction → String
  | .ascending => "ASC"
  | .descending => "DESC"

def NullsPlace.keyword : NullsPlace → String
  | .first => "NULLS FIRST"
  | .last => "NULLS LAST"

/-- Random order has no direction and no place for nulls. -/
def OrderItem.text (dialect : Dialect) (item : OrderItem) : String :=
  match item.key with
  | .random => dialect.randomFunction
  | .column expression =>
    " ".intercalate (expression ::
      (item.direction.map Direction.keyword).toList ++
      (item.nulls.map NullsPlace.keyword).toList)

def RowBound.text : RowBound → String
  | .literal count => Number.writeNat count.toNat
  | .parameter name => "$" ++ name

/-- A clause, when there is something for it to hold. -/
def clause? (keyword : String) (content : Option String) : List String :=
  (content.map fun held => keyword ++ " " ++ held).toList

namespace Select

def orderText? (dialect : Dialect) (statement : Select) : Option String :=
  if statement.order = [] then none
  else some (commaList (statement.order.map (OrderItem.text dialect)))

def clauses (dialect : Dialect) (statement : Select) : List String :=
  ["SELECT " ++ commaList statement.columns, "FROM " ++ statement.source] ++
  statement.joins.map Join.text ++
  clause? "WHERE" statement.condition ++
  clause? "GROUP BY" statement.grouping ++
  clause? "HAVING" statement.groupCondition ++
  clause? "ORDER BY" (statement.orderText? dialect) ++
  clause? "LIMIT" (statement.limit.map RowBound.text) ++
  clause? "OFFSET" (statement.offset.map RowBound.text)

def text (dialect : Dialect) (statement : Select) : String :=
  " ".intercalate (statement.clauses dialect)

end Select

/-- What follows `ON CONFLICT`. -/
def ConflictAction.text : ConflictAction → String
  | .doNothing => "DO NOTHING"
  | .update target assignments =>
    let action := "DO UPDATE SET " ++
      commaList (assignments.map fun (column, value) => column ++ " = " ++ value)
    if target = [] then action else tuple target ++ " " ++ action

namespace Insert

def returningText? (statement : Insert) : Option String :=
  if statement.returning = [] then none else some (commaList statement.returning)

def clauses (statement : Insert) : List String :=
  ["INSERT INTO " ++ statement.table ++ " " ++ tuple statement.columns,
   "VALUES " ++ commaList (statement.rows.map tuple)] ++
  clause? "ON CONFLICT" (statement.onConflict.map ConflictAction.text) ++
  clause? "RETURNING" statement.returningText?

def text (statement : Insert) : String :=
  " ".intercalate statement.clauses

end Insert

def Delete.text (statement : Delete) : String :=
  " ".intercalate (("DELETE FROM " ++ statement.table) :: clause? "WHERE" statement.condition)

def Statement.text (dialect : Dialect) : Statement → String
  | .select statement => statement.text dialect
  | .insert statement => statement.text
  | .delete statement => statement.text

end TagQuery
