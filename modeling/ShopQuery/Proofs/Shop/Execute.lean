import ShopQuery.Shop.Evaluate

/-!
# Statements with their parameters

What each statement comes to over the tables of a shop when it has the parameters of its template:
the answer of its evaluator as rows, or the evaluator's fault as an error.

There is one equation for each template. They are all that later modules know of how parameters are
read and how rows are made, so those speak of evaluators (`Shop.spending`, `Shop.ranking` and the
others) and not of statements until the end. Statements with other parameters are the subject of
`Shop.execute_checks_params`.
-/

namespace ShopQuery.Shop

/-- The result with the columns of a template, or the error of a fault. -/
def resultOf (template : Template) (rows : Except QueryFault (List Row)) :
    Except Error QueryResult :=
  (rows.map (QueryResult.mk template.columns)).mapError QueryFault.error

theorem execute_eq_resultOf (shop : Shop) (statement : Statement) :
    shop.execute statement = resultOf statement.template (shop.rows statement) := by
  unfold execute
  cases shop.rows statement <;> rfl

theorem execute_lastName (shop : Shop) (name : String) :
    shop.execute ⟨.lastName, [.text name]⟩ =
      .ok ⟨Template.lastName.columns, (shop.withLastName name).map nameRow⟩ := rfl

theorem execute_productFrequency (shop : Shop) (product : String) (least : Int64) :
    shop.execute ⟨.productFrequency, [.text product, .int least]⟩ =
      .ok ⟨Template.productFrequency.columns, (shop.frequentBuyers product least).map nameRow⟩ :=
  rfl

theorem rows_expenseRange (shop : Shop) (least greatest : Int64) :
    shop.rows ⟨.expenseRange, [.int least, .int greatest]⟩ =
      (shop.spending least greatest).map (·.map nameRow) :=
  bind_pure_comp _ (shop.spending least greatest)

theorem execute_expenseRange (shop : Shop) (least greatest : Int64) :
    shop.execute ⟨.expenseRange, [.int least, .int greatest]⟩ =
      resultOf .expenseRange ((shop.spending least greatest).map (·.map nameRow)) := by
  rw [execute_eq_resultOf, rows_expenseRange]

theorem rows_badCustomers (shop : Shop) (limit : Int64) :
    shop.rows ⟨.badCustomers, [.int limit]⟩ =
      (shop.rarestBuyers limit).map (·.map nameRow) :=
  bind_pure_comp _ (shop.rarestBuyers limit)

theorem execute_badCustomers (shop : Shop) (limit : Int64) :
    shop.execute ⟨.badCustomers, [.int limit]⟩ =
      resultOf .badCustomers ((shop.rarestBuyers limit).map (·.map nameRow)) := by
  rw [execute_eq_resultOf, rows_badCustomers]

theorem execute_weekdayCount (shop : Shop) (start finish : Date) :
    shop.execute ⟨.weekdayCount, [.date start, .date finish]⟩ =
      .ok ⟨Template.weekdayCount.columns,
        [[.int (Int64.ofNat (weekdaysBetween start finish))]]⟩ := rfl

theorem rows_customerExpenses (shop : Shop) (start finish : Date) :
    shop.rows ⟨.customerExpenses, [.date start, .date finish]⟩ =
      (shop.weekdaySpending start finish).map (·.map fun s => nameRow s.1 ++ [.int s.2]) :=
  bind_pure_comp _ (shop.weekdaySpending start finish)

theorem execute_customerExpenses (shop : Shop) (start finish : Date) :
    shop.execute ⟨.customerExpenses, [.date start, .date finish]⟩ =
      resultOf .customerExpenses ((shop.weekdaySpending start finish).map
        (·.map fun s => nameRow s.1 ++ [.int s.2])) := by
  rw [execute_eq_resultOf, rows_customerExpenses]

end ShopQuery.Shop
