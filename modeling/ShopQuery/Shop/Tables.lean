import ShopQuery.Calendar.Date
import ShopQuery.Number.Bigint

/-!
# The tables of a shop

Customers, products and purchases, each in the order in which they were added.

## Joins

A purchase refers to a customer and a product by number. Where several records share a number, the
one added first is meant; a purchase without a customer or product is left out of every join.

## Groups

`group` sums up joined rows per customer, in ascending order of the customers' numbers. What it
says of a customer depends on that customer's rows alone.
-/

namespace ShopQuery

/-- Someone who buys. -/
structure Customer where
  id : Int64
  lastName : String
  firstName : String
deriving DecidableEq, Repr

structure Product where
  id : Int64
  name : String
  price : Int64
deriving DecidableEq, Repr

/-- A customer bought a product on a day. -/
structure Purchase where
  customer : Int64
  product : Int64
  date : Date
deriving DecidableEq, Repr

structure Shop where
  customers : List Customer
  products : List Product
  purchases : List Purchase
deriving DecidableEq, Repr

namespace Shop

/-! ## 1. Adding records -/

def empty : Shop := ⟨[], [], []⟩

def addCustomer (shop : Shop) (c : Customer) : Shop :=
  { shop with customers := shop.customers ++ [c] }

def addProduct (shop : Shop) (p : Product) : Shop := { shop with products := shop.products ++ [p] }

def addPurchase (shop : Shop) (p : Purchase) : Shop :=
  { shop with purchases := shop.purchases ++ [p] }

/-! ## 2. Joins -/

/-- The first customer with a number. -/
def customer? (shop : Shop) (id : Int64) : Option Customer := shop.customers.find? (·.id == id)

/-- The first product with a number. -/
def product? (shop : Shop) (id : Int64) : Option Product := shop.products.find? (·.id == id)

/-- A purchase with its customer and product, if both exist and the pair is wanted. -/
def joinOne (shop : Shop) (keep : Purchase → Product → Bool) (purchase : Purchase) :
    Option (Customer × Product) := do
  let customer ← shop.customer? purchase.customer
  let product ← shop.product? purchase.product
  if keep purchase product then some (customer, product) else none

/-- All wanted purchases with their customers and products. -/
def joined (shop : Shop) (keep : Purchase → Product → Bool) : List (Customer × Product) :=
  shop.purchases.filterMap (shop.joinOne keep)

end Shop

/-! ## 3. Groups -/

/-- What the joined rows of one customer come to. The total is missing where it does not fit. -/
structure Group where
  customer : Customer
  count : Nat
  total : Option Int64
deriving DecidableEq, Repr

namespace Group

/-- Puts a number into an ascending list, unless it is there. -/
def insertId (id : Int64) : List Int64 → List Int64
  | [] => [id]
  | head :: rest =>
    if id < head then id :: head :: rest
    else if id = head then head :: rest
    else head :: insertId id rest

/-- The customers' numbers that occur in rows, ascending and each once. -/
def ids (rows : List (Customer × Product)) : List Int64 :=
  rows.foldr (fun row acc => insertId row.1.id acc) []

/-- Sums up rows of one customer. -/
def ofRows? : List (Customer × Product) → Option Group
  | [] => none
  | row :: rest =>
    some
      { customer := row.1
        count := (row :: rest).length
        total := sumChecked ((row :: rest).map (·.2.price)) }

/-- The group of the customer with a number. -/
def of? (rows : List (Customer × Product)) (id : Int64) : Option Group :=
  ofRows? (rows.filter (·.1.id == id))

end Group

/-- One group for each customer in rows, ascending by number. -/
def group (rows : List (Customer × Product)) : List Group :=
  (Group.ids rows).filterMap (Group.of? rows)

end ShopQuery
