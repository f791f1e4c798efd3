import TagTemplates.Liquid.Render

/-!
# What a template reads of its data

A template looks into its data by paths that begin with a name, and takes the plain values that
these lead to.  So data that give the same values along all such paths are rendered the same; in
particular the order of the entries at the top of the data does not matter.

* `Node.SameReads`: data that give the same values.
* `Node.sameReads_of_fieldAt?`: records with the same entries do.
* `Expression.evaluate_congr`, `Part.render_congr`: values and parts.
* `Template.render_congr`: whole templates.
-/

namespace TagTemplates

/-- Every path that begins with a name leads to the same value, or nowhere. -/
def Node.SameReads (n m : Node) : Prop :=
  ∀ root path, (n.walk? (.string root :: path)).map Node.toValue =
    (m.walk? (.string root :: path)).map Node.toValue

/-- Records with the same entry under every key give the same values. -/
theorem Node.sameReads_of_fieldAt? {displayKey displayKey' : String}
    {fields others : List (String × Node)}
    (h : ∀ key, fieldAt? key fields = fieldAt? key others) :
    (record displayKey fields).SameReads (record displayKey' others) := by
  intro root path
  have hpart : ∀ displayKey fields, (record displayKey fields).part? (.string root) =
      some ((fieldAt? (Text.fold (Scalar.text (.string root))) fields).getD missing) :=
    fun _ _ => rfl
  rw [walk?, walk?, hpart, hpart, h]

namespace Liquid

variable {scope : Scope} {other : Node}

mutual

/-- The value of an expression is the same. -/
theorem Expression.evaluate_congr (h : scope.data.SameReads other)
    (assigned : List (String × Value)) : ∀ e : Expression,
      e.evaluate scope assigned = e.evaluate { scope with data := other } assigned
  | .literal _ => by rw [Expression.evaluate, Expression.evaluate]
  | .lookup root indices => by
    rw [Expression.evaluate, Expression.evaluate, evaluateIndices_congr h assigned indices]
    cases evaluateIndices { scope with data := other } assigned indices with
    | none => rfl
    | some path =>
      have hbound : boundValue? { scope with data := other } assigned root =
          boundValue? scope assigned root := rfl
      simp only [hbound]
      cases boundValue? scope assigned root with
      | none => exact h root path
      | some value => rfl

theorem evaluateIndices_congr (h : scope.data.SameReads other)
    (assigned : List (String × Value)) : ∀ indices : List Expression,
      evaluateIndices scope assigned indices =
        evaluateIndices { scope with data := other } assigned indices
  | [] => by rw [evaluateIndices, evaluateIndices]
  | e :: es => by
    rw [evaluateIndices, evaluateIndices, Expression.evaluate_congr h assigned e,
      evaluateIndices_congr h assigned es]

end

theorem Chain.evaluate_congr (h : scope.data.SameReads other) (assigned : List (String × Value))
    (chain : Chain) :
    chain.evaluate scope assigned = chain.evaluate { scope with data := other } assigned := by
  rw [Chain.evaluate, Chain.evaluate]
  simp only [Expression.evaluate_congr h]

theorem Condition.test_congr (h : scope.data.SameReads other) (assigned : List (String × Value)) :
    ∀ condition : Condition,
      condition.test scope assigned = condition.test { scope with data := other } assigned
  | .holds e => by rw [Condition.test, Condition.test, Expression.evaluate_congr h]
  | .compare left comparison right => by
    rw [Condition.test, Condition.test]
    simp only [Expression.evaluate_congr h]
  | .both left right => by
    rw [Condition.test, Condition.test, Condition.test_congr h assigned left,
      Condition.test_congr h assigned right]
  | .either left right => by
    rw [Condition.test, Condition.test, Condition.test_congr h assigned left,
      Condition.test_congr h assigned right]

theorem LoopHead.values?_congr (h : scope.data.SameReads other) (assigned : List (String × Value))
    (head : LoopHead) :
    head.values? scope assigned = head.values? { scope with data := other } assigned := by
  have hwhole : ∀ e, wholeValue scope assigned e =
      wholeValue { scope with data := other } assigned e := by
    intro e
    rw [wholeValue, wholeValue, Expression.evaluate_congr h]
  have hsource : head.source.values? scope assigned =
      head.source.values? { scope with data := other } assigned := by
    cases head.source with
    | values list => rw [LoopSource.values?, LoopSource.values?, Expression.evaluate_congr h]
    | range first last =>
      rw [LoopSource.values?, LoopSource.values?]
      simp only [hwhole]
  have hsetting : ∀ count setting, settingValue scope assigned count setting =
      settingValue { scope with data := other } assigned count setting := by
    rintro count (_ | e)
    · rfl
    · rw [settingValue, settingValue, hwhole]
  rw [LoopHead.values?, LoopHead.values?]
  simp only [hsource, hsetting]

theorem matchesAny_congr (h : scope.data.SameReads other) (assigned : List (String × Value))
    (value : Value) : ∀ alternatives : List Expression,
      renderCases.matchesAny scope assigned value alternatives =
        renderCases.matchesAny { scope with data := other } assigned value alternatives
  | [] => rfl
  | e :: es => by
    rw [renderCases.matchesAny, renderCases.matchesAny, Expression.evaluate_congr h,
      matchesAny_congr h assigned value es]

mutual

/-- **A part is rendered the same.** -/
theorem Part.render_congr {scope : Scope} (h : scope.data.SameReads other) (p : Progress) :
    ∀ part : Part, part.render scope p = part.render { scope with data := other } p
  | .text _ => by rw [Part.render, Part.render]
  | .output chain => by rw [Part.render, Part.render, Chain.evaluate_congr h]
  | .assign name chain => by rw [Part.render, Part.render, Chain.evaluate_congr h]
  | .capture name body => by rw [Part.render, Part.render, renderParts_congr h _ body]
  | .choice wanted condition body otherwise => by
    rw [Part.render, Part.render, Condition.test_congr h, renderParts_congr h p body,
      renderParts_congr h p otherwise]
  | .select target cases otherwise => by
    rw [Part.render, Part.render, Expression.evaluate_congr h, renderParts_congr h p otherwise]
    cases target.evaluate { scope with data := other } p.assigned with
    | none => rfl
    | some value => simp only [renderCases_congr h p value cases]
  | .loop head body otherwise => by
    have hturn : ∀ outer count, (fun index v q =>
        renderParts (scope.turn outer head.name index count v) q body) = fun index v q =>
        renderParts (({ scope with data := other } : Scope).turn outer head.name index count v) q
          body := by
      intro outer count
      funext index v q
      have hdata : (scope.turn outer head.name index count v).data.SameReads other := h
      exact renderParts_congr hdata q body
    have hbound : boundValue? { scope with data := other } p.assigned "forloop" =
        boundValue? scope p.assigned "forloop" := rfl
    rw [Part.render, Part.render, LoopHead.values?_congr h, renderParts_congr h p otherwise]
    simp only [hturn, hbound]
  | .interrupt _ => by rw [Part.render, Part.render]
  | .foreign tag body => by
    have hbody : (fun names q =>
        renderParts { scope with loops := names :: scope.loops } q body) = fun names q =>
        renderParts { scope with data := other, loops := names :: scope.loops } q body := by
      funext names q
      have hdata : ({ scope with loops := names :: scope.loops } : Scope).data.SameReads other := h
      exact renderParts_congr hdata q body
    rw [Part.render, Part.render]
    simp only [Expression.evaluate_congr h, hbody]

theorem renderParts_congr {scope : Scope} (h : scope.data.SameReads other) (p : Progress) :
    ∀ parts : List Part,
      renderParts scope p parts = renderParts { scope with data := other } p parts
  | [] => by rw [renderParts, renderParts]
  | part :: rest => by
    rw [renderParts, renderParts, Part.render_congr h p part]
    cases part.render { scope with data := other } p with
    | none => rfl
    | some after => simp only [renderParts_congr h after rest]

theorem renderCases_congr {scope : Scope} (h : scope.data.SameReads other) (p : Progress)
    (value : Value) : ∀ cases : List (List Expression × List Part),
      renderCases scope p value cases = renderCases { scope with data := other } p value cases
  | [] => by rw [renderCases, renderCases]
  | (alternatives, body) :: rest => by
    rw [renderCases, renderCases, matchesAny_congr h, renderParts_congr h p body,
      renderCases_congr h p value rest]

end

/-- **A template is rendered the same from data that give the same values.** -/
theorem Template.render_congr {data other : Node} (h : data.SameReads other) (displayKey : String)
    (template : Template) : template.render displayKey data = template.render displayKey other := by
  have hdata : (⟨data, displayKey, []⟩ : Scope).data.SameReads other := h
  rw [Template.render, Template.render, renderParts_congr hdata .start template]

end Liquid

end TagTemplates
