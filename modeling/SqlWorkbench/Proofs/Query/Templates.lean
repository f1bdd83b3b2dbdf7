import SqlWorkbench.Query.Rendering
import Mathlib.Tactic.Common

/-!
# Rendering by templates

A template has the order of its text and of its data in one list, so that a datum can not come to
the placeholder of another. Rendering an expression, which changes the list of bound data on the
way, is writing the template of the expression.
-/

namespace SqlWorkbench

variable {style : SqlStyle} {d : Dialect} {s t : Template} {count : Nat}

/-! ### Two templates in a row -/

namespace Template

lemma literalSql_append : (s ++ t).literalSql d = s.literalSql d ++ t.literalSql d := by
  induction s with
  | nil => simp [literalSql]
  | cons piece s ih => cases piece <;> simp [literalSql, ih, String.append_assoc]

lemma boundSql_append :
    (s ++ t).boundSql d count = s.boundSql d count ++ t.boundSql d (count + (slots s).length) := by
  induction s generalizing count with
  | nil => simp [boundSql]
  | cons piece s ih =>
    cases piece with
    | text sql => simp [boundSql, ih, String.append_assoc]
    | slot value =>
      have hcount : count + ((slots s).length + 1) = count + 1 + (slots s).length := by omega
      simp [boundSql, ih, String.append_assoc, hcount]

@[simp] lemma queryAfter_ofText (sql : String) :
    (ofText sql).queryAfter style count = .ofSql sql := by
  cases h : style.inline <;> simp [queryAfter, h, ofText, literalSql, boundSql, Query.ofSql]

/-- The placeholders of the second template go on where those of the first end. -/
lemma queryAfter_append :
    (s ++ t).queryAfter style count =
      let first := s.queryAfter style count
      let second := t.queryAfter style (count + first.parameters.length)
      ⟨first.sql ++ second.sql, first.parameters ++ second.parameters⟩ := by
  cases h : style.inline <;> simp [queryAfter, h, literalSql_append, boundSql_append]

end Template

/-! ### Writing a template -/

namespace Template

/-- A template is rendered in one go. -/
def write (style : SqlStyle) (t : Template) : Rendering String :=
  modifyGet fun bound =>
    let q := t.queryAfter style bound.length
    (q.sql, bound ++ q.parameters)

lemma run_write (bound : List Datum) :
    (t.write style).run bound = pure ((t.queryAfter style bound.length).sql,
      bound ++ (t.queryAfter style bound.length).parameters) := by
  rw [write, StateT.run_modifyGet]

@[simp] lemma write_ofText (sql : String) : (ofText sql).write style = pure sql := by
  refine StateT.ext fun bound => ?_
  simp [run_write, Query.ofSql]

@[simp] lemma write_slot (value : Datum) :
    write style [.slot value] = Expression.renderDatum style value := by
  refine StateT.ext fun bound => ?_
  cases h : style.inline <;>
    simp [run_write, queryAfter, Expression.renderDatum, h, literalSql, boundSql]

lemma write_append :
    (s ++ t).write style = do return (← s.write style) ++ (← t.write style) := by
  refine StateT.ext fun bound => ?_
  simp [run_write, queryAfter_append]

/-- Templates that are joined are written one after the other. -/
lemma write_joinWith (separator : String) (ts : List Template) :
    (joinWith separator ts).write style
      = do return Text.joinWith separator (← ts.mapM (write style)) := by
  fun_induction joinWith separator ts with
  | case1 => exact write_ofText ""
  | case2 t => simp
  | case3 t next rest ih =>
    simp [write_append, ih, Text.joinWith_cons_cons, String.append_assoc]

lemma mapM_write_map_ofText (sqls : List String) :
    (sqls.map ofText).mapM (write style) = pure sqls := by
  induction sqls with
  | nil => rfl
  | cons sql sqls ih => rw [List.map_cons, List.mapM_cons, ih, write_ofText, pure_bind, pure_bind]

@[simp] lemma slots_joinWith (separator : String) (ts : List Template) :
    slots (joinWith separator ts) = ts.flatMap slots := by
  fun_induction joinWith separator ts with
  | case1 => rfl
  | case2 t => simp
  | case3 t next rest ih => simp [ih, ofText]

end Template

/-! ### Expressions -/

namespace Expression

mutual

/-- Rendering an expression is writing its template. -/
theorem render_eq_write : ∀ e : Expression, e.render style = (e.template style.dialect).write style
  | .name parts => by simp [render, template]
  | .literal value => by simp [render, template]
  | .parameter value => by simp [render, template]
  | .list items => by
    simp [render, template, Template.write_append, Template.write_joinWith,
      renderItems_eq_mapM items, String.append_assoc]
  | .comparison left operator none => by
    simp [render, template, Template.write_append, render_eq_write left]
  | .comparison left operator (some right) => by
    simp [render, template, Template.write_append, render_eq_write left, render_eq_write right,
      String.append_assoc]
  | .junction connective items => by
    simp [render, template, Template.write_joinWith, renderConditions_eq_mapM items]
  | .raw sql => by simp [render, template]

lemma renderItems_eq_mapM : ∀ items : List Expression,
    renderItems style items = (templates style.dialect items).mapM (Template.write style)
  | [] => by simp [renderItems, templates]
  | item :: rest => by
    simp [renderItems, templates, render_eq_write item, renderItems_eq_mapM rest]

lemma renderConditions_eq_mapM : ∀ items : List Expression,
    renderConditions style items = (conditions style.dialect items).mapM (Template.write style)
  | [] => by simp [renderConditions, conditions]
  | item :: rest => by
    cases h : item.isWideJunction <;>
      simp [renderConditions, conditions, h, Template.write_append, render_eq_write item,
        renderConditions_eq_mapM rest, String.append_assoc]

end

/-! ### The data of an expression -/

mutual

/-- The data that an expression leaves to be bound, from left to right. -/
def data : Expression → List Datum
  | .name _ => []
  | .literal _ => []
  | .parameter value => [value]
  | .list items => dataOfItems items
  | .comparison left _ none => data left
  | .comparison left _ (some right) => data left ++ data right
  | .junction _ items => dataOfItems items
  | .raw _ => []

/-- The data of expressions one after the other. -/
def dataOfItems : List Expression → List Datum
  | [] => []
  | item :: rest => data item ++ dataOfItems rest

end

lemma dataOfItems_eq_flatMap (items : List Expression) :
    dataOfItems items = items.flatMap data := by
  induction items with
  | nil => rfl
  | cons item rest ih => rw [dataOfItems, ih, List.flatMap_cons]

lemma dataOfItems_parameters {α : Type} (value : α → Datum) (as : List α) :
    dataOfItems (as.map fun a => .parameter (value a)) = as.map value := by
  induction as with
  | nil => rfl
  | cons a as ih => rw [List.map_cons, dataOfItems, ih, data, List.map_cons, List.singleton_append]

lemma dataOfItems_columns {α : Type} (name : α → String) (as : List α) :
    dataOfItems (as.map fun a => .column (name a)) = [] := by
  induction as with
  | nil => rfl
  | cons a as ih => rw [List.map_cons, dataOfItems, ih, column, data, List.nil_append]

mutual

/-- The slots of the template of an expression are its data. -/
lemma slots_template : ∀ e : Expression, Template.slots (e.template d) = e.data
  | .name parts => rfl
  | .literal value => rfl
  | .parameter value => rfl
  | .list items => by
    simp [template, data, Template.ofText, slots_templates items]
  | .comparison left operator none => by
    simp [template, data, Template.ofText, slots_template left]
  | .comparison left operator (some right) => by
    simp [template, data, Template.ofText, slots_template left, slots_template right]
  | .junction connective items => by
    simp [template, data, slots_conditions items]
  | .raw sql => rfl

lemma slots_templates : ∀ items : List Expression,
    (templates d items).flatMap Template.slots = dataOfItems items
  | [] => rfl
  | item :: rest => by
    rw [templates, List.flatMap_cons, slots_template item, slots_templates rest, dataOfItems]

lemma slots_conditions : ∀ items : List Expression,
    (conditions d items).flatMap Template.slots = dataOfItems items
  | [] => rfl
  | item :: rest => by
    rw [conditions, List.flatMap_cons, slots_conditions rest, dataOfItems]
    cases item.isWideJunction <;> simp [Template.ofText, slots_template item]

end

end Expression

end SqlWorkbench
