import ShopQuery.Calendar.Date
import ShopQuery.Text.Quoted

/-!
# Statements

Everything that is ever asked of a database: one of six fixed templates, with values bound to its
positions. Values reach a database only as parameters; the text of a template never changes.
-/

namespace ShopQuery

/-! ## 1. Templates -/

inductive Template where
  /-- Customers with a last name. Parameters: the name. -/
  | lastName
  /-- Customers who bought a product often enough. Parameters: the product, the least number. -/
  | productFrequency
  /-- Customers whose total spending lies in a range. Parameters: least and greatest total. -/
  | expenseRange
  /-- The customers with the fewest purchases. Parameters: how many. -/
  | badCustomers
  /-- The number of weekdays in a period. Parameters: first and last day. -/
  | weekdayCount
  /-- The spending of each customer on the weekdays of a period. Parameters: first and last day. -/
  | customerExpenses
deriving DecidableEq, Repr

namespace Template

def name : Template → String
  | .lastName => "last_name"
  | .productFrequency => "product_frequency"
  | .expenseRange => "expense_range"
  | .badCustomers => "bad_customers"
  | .weekdayCount => "weekday_count"
  | .customerExpenses => "customer_expenses"

/-- The columns of every row that answers a template. -/
def columns : Template → List String
  | .lastName | .productFrequency | .expenseRange | .badCustomers => ["last_name", "first_name"]
  | .weekdayCount => ["total_days"]
  | .customerExpenses => ["last_name", "first_name", "total_expenses"]

def arity : Template → Nat
  | .lastName | .badCustomers => 1
  | _ => 2

def sql : Template → String
  | .lastName => "
SELECT last_name, first_name
FROM customers
WHERE last_name = $1
ORDER BY last_name, first_name, id
"
  | .productFrequency => "
SELECT last_name, first_name
FROM customers
JOIN purchases ON customers.id = purchases.customer
JOIN products ON purchases.product = products.id
WHERE products.name = $1
GROUP BY last_name, first_name, customers.id
HAVING count(*) >= $2
ORDER BY last_name, first_name, customers.id
"
  | .expenseRange => "
SELECT last_name, first_name
FROM customers
JOIN purchases ON customers.id = purchases.customer
JOIN products ON purchases.product = products.id
GROUP BY last_name, first_name, customers.id
HAVING sum(products.price) BETWEEN $1 AND $2
ORDER BY last_name, first_name, customers.id
"
  | .badCustomers => "
SELECT last_name, first_name
FROM customers
JOIN purchases ON customers.id = purchases.customer
GROUP BY last_name, first_name, customers.id
ORDER BY count(*), last_name, first_name, customers.id
LIMIT $1
"
  | .weekdayCount => "
SELECT count(*) AS total_days
FROM generate_series($1::timestamp, $2::timestamp, '1 day'::interval) AS day
WHERE extract(isodow FROM day) < 6
"
  | .customerExpenses => "
SELECT last_name, first_name, sum(products.price)::bigint AS total_expenses
FROM customers
JOIN purchases ON customers.id = purchases.customer
JOIN products ON purchases.product = products.id
WHERE purchase_date BETWEEN $1::date AND $2::date
    AND extract(isodow FROM purchase_date) < 6
GROUP BY last_name, first_name, customers.id
ORDER BY total_expenses DESC, last_name, first_name, customers.id
"

end Template

/-! ## 2. Parameters -/

/-- A value bound to a position of a template. -/
inductive Param where
  | text (value : String)
  | int (value : Int64)
  | date (value : Date)
deriving DecidableEq, Repr

/-- A parameter in messages: its type and value. -/
def Param.display : Param → String
  | .text s => "Text(" ++ Quoted.quote s ++ ")"
  | .int n => "Int(" ++ toString n.toInt ++ ")"
  | .date d => "Date(" ++ d.text ++ ")"

structure Statement where
  template : Template
  params : List Param
deriving DecidableEq, Repr

end ShopQuery
