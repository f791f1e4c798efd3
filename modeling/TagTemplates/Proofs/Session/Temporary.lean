import Mathlib.Data.List.Infix
import TagTemplates.Proofs.Dump.Walk
import TagTemplates.Proofs.Registry.Changes
import TagTemplates.Session

/-!
# Temporary schemas leave no trace

A body that runs while some schemas are registered for a while may itself register schemas, take
them away, and open further scopes inside its own; it may also end before its end, with an error or
by a panic.  Whatever it does, its scope takes back what it added when it was entered, and nothing
else.

Scopes take schemas away by their first place in the list.  That is right only because no schema
stands in the list twice, and so this is proved first: a body goes through its registries in single
changes, and none of them puts a schema in that is there already.

* `Ending`, `Call`, `Course`: what a body does and how it goes; `Call.run` and `runAll` run it.
* `Change`, `Way`: registries that come one from another by single changes.
* `Change.nodup`, `Way.nodup`: what one change keeps, and what a way keeps.
* `way_run`: a body goes its way, from one call to the next.
* `Reachable`, `Restored`: a registry that was ever come by, and what a scope leaves of one.
* `release_registerAll`, `restored_withTemporary`: what a scope takes back.
* `withTemporary_restores`: scopes over reachable registries restore them.
-/

namespace TagTemplates

namespace Registry

/-! ## Bodies -/

/-- How a body ends.  What it gives back does not matter here. -/
inductive Ending where
  | finished
  /-- It gives an error back. -/
  | failed
  | panicked
  deriving DecidableEq

/-- One call that a body makes.  `onward` is what the body makes of the ending of a call: it goes on
when this is `finished`, and else ends in the same way.  So `id` hands every error and panic on, and
a body that ignores errors or catches panics has another `onward`. -/
inductive Call where
  | register (schema : Schema)
  | registerAll (schemas : List Schema)
  | unregister (schema : Schema) (onward : Ending → Ending)
  | withTemporary (schemas : List Schema) (body : List Call) (onward : Ending → Ending)
  /-- Holds the guard of some schemas while it makes the calls of its body. -/
  | scoped (schemas : List Schema) (body : List Call) (onward : Ending → Ending)
  /-- Ends the body early. -/
  | leave (ending : Ending)

/-- How a body went. -/
structure Course where
  ending : Ending
  /-- The registry before the first change, after it, and so on up to the last one. -/
  moments : List Registry
  last : Registry

mutual

/-- Make one call. -/
def Call.run : Call → Registry → Course
  | .register schema, registry =>
    ⟨.finished, [registry, registry.register schema], registry.register schema⟩
  | .registerAll schemas, registry =>
    ⟨.finished, schemas.inits.map registry.registerAll, registry.registerAll schemas⟩
  | .unregister schema onward, registry =>
    match registry.unregister schema with
    | .ok after => ⟨onward .finished, [registry, after], after⟩
    | .error _ => ⟨onward .failed, [registry], registry⟩
  | .withTemporary schemas body onward, registry =>
    let (inner, after) := registry.withTemporary schemas fun within =>
      (runAll body within, (runAll body within).last)
    ⟨onward inner.ending, schemas.inits.map registry.registerAll ++
      (inner.moments ++ (registry.scope schemas).1.inits.map inner.last.release), after⟩
  | .scoped schemas body onward, registry =>
    let (added, within) := registry.scope schemas
    let inner := runAll body within
    ⟨onward inner.ending, schemas.inits.map registry.registerAll ++
      (inner.moments ++ added.inits.map inner.last.release), inner.last.release added⟩
  | .leave ending, registry => ⟨ending, [registry], registry⟩

/-- Make calls one after another, up to the first that ends the body. -/
def runAll : List Call → Registry → Course
  | [], registry => ⟨.finished, [registry], registry⟩
  | call :: rest, registry =>
    let first := call.run registry
    match first.ending with
    | .finished =>
      let more := runAll rest first.last
      ⟨more.ending, first.moments ++ more.moments, more.last⟩
    | _ => first

end

/-- A body as it is handed to a scope. -/
def bodyOf (calls : List Call) (registry : Registry) : Course × Registry :=
  (runAll calls registry, (runAll calls registry).last)

/-! ## Single changes -/

/-- At most one schema is put in or taken out. -/
inductive Change (registry : Registry) : Registry → Prop where
  | same : registry.Change registry
  | added {schema : Schema} : schema ∉ registry.schemas →
      registry.Change ⟨registry.schemas ++ [schema]⟩
  | removed {schema : Schema} : schema ∈ registry.schemas → registry.Change (registry.erase schema)

/-- Registries that come one from another by single changes, with the first and the last of
them. -/
inductive Way : List Registry → Registry → Registry → Prop where
  | stay (registry : Registry) : Way [registry] registry registry
  | change {first next last : Registry} {moments : List Registry} : first.Change next →
      Way moments next last → Way (first :: moments) first last

variable {registry first next last : Registry} {moments more : List Registry}

theorem change_register (registry : Registry) (schema : Schema) :
    registry.Change (registry.register schema) := by
  by_cases h : schema ∈ registry.schemas
  · rw [register_of_mem h]
    exact Change.same
  · rw [register_of_notMem h]
    exact Change.added h

theorem change_erase (registry : Registry) (schema : Schema) :
    registry.Change (registry.erase schema) := by
  by_cases h : schema ∈ registry.schemas
  · exact Change.removed h
  · rw [erase_of_notMem h]
    exact Change.same

/-- **One change never registers a schema twice.** -/
theorem Change.nodup (h : first.Change next) (hfirst : first.schemas.Nodup) :
    next.schemas.Nodup := by
  cases h with
  | same => exact hfirst
  | @added schema hnew =>
    rw [List.nodup_append]
    refine ⟨hfirst, List.nodup_singleton schema, fun a ha b hb hab => hnew ?_⟩
    rw [← List.mem_singleton.mp hb, ← hab]
    exact ha
  | removed _ => exact hfirst.erase _

/-- **A way never registers a schema twice.** -/
theorem Way.nodup (h : Way moments first last) (hfirst : first.schemas.Nodup) :
    ∀ moment ∈ moments, moment.schemas.Nodup := by
  induction h with
  | stay registry => exact List.forall_mem_singleton.mpr hfirst
  | change hchange _ ih =>
    exact List.forall_mem_cons.mpr ⟨hfirst, ih (hchange.nodup hfirst)⟩

/-- The last registry of a way is one of its moments. -/
theorem Way.last_mem (h : Way moments first last) : last ∈ moments := by
  induction h with
  | stay registry => exact List.mem_singleton.mpr rfl
  | change _ _ ih => exact List.mem_cons_of_mem _ ih

/-- A way goes on where another one ends. -/
theorem Way.append (h : Way moments first next) (hmore : Way more next last) :
    Way (moments ++ more) first last := by
  induction h with
  | stay registry => exact Way.change Change.same hmore
  | change hchange _ ih => exact Way.change hchange (ih hmore)

/-- Schemas are treated one after another, each by a single change. -/
theorem way_inits {f : Registry → Schema → Registry} (hf : ∀ r s, Change r (f r s)) :
    ∀ (schemas : List Schema) (registry : Registry),
      Way (schemas.inits.map fun part => part.foldl f registry) registry (schemas.foldl f registry)
  | [], registry => Way.stay registry
  | schema :: rest, registry => by
    rw [List.inits_cons, List.map_cons, List.map_map]
    exact Way.change (hf registry schema) (way_inits hf rest (f registry schema))

theorem way_registerAll (schemas : List Schema) (registry : Registry) :
    Way (schemas.inits.map registry.registerAll) registry (registry.registerAll schemas) :=
  way_inits change_register schemas registry

theorem way_release (added : List Schema) (registry : Registry) :
    Way (added.inits.map registry.release) registry (registry.release added) :=
  way_inits change_erase added registry

/-! ## The way of a body -/

/-- Both ways to open a scope come to the same. -/
theorem run_scoped (schemas : List Schema) (body : List Call) (onward : Ending → Ending) :
    (Call.scoped schemas body onward).run = (Call.withTemporary schemas body onward).run := rfl

/-- What a scope does, phase by phase. -/
theorem run_withTemporary (schemas : List Schema) (body : List Call) (onward : Ending → Ending)
    (registry : Registry) :
    (Call.withTemporary schemas body onward).run registry =
      ⟨onward (runAll body (registry.registerAll schemas)).ending,
        schemas.inits.map registry.registerAll ++
          ((runAll body (registry.registerAll schemas)).moments ++
            (registry.scope schemas).1.inits.map
              (runAll body (registry.registerAll schemas)).last.release),
        (runAll body (registry.registerAll schemas)).last.release (registry.scope schemas).1⟩ := by
  rw [← scope_snd]
  rfl

/-- A scope goes its way when its body does: it adds schemas, the body runs, and it takes them
back. -/
theorem way_run_withTemporary {schemas : List Schema} {body : List Call} {registry : Registry}
    (h : Way (runAll body (registry.registerAll schemas)).moments (registry.registerAll schemas)
      (runAll body (registry.registerAll schemas)).last) (onward : Ending → Ending) :
    Way ((Call.withTemporary schemas body onward).run registry).moments registry
      ((Call.withTemporary schemas body onward).run registry).last := by
  rw [run_withTemporary]
  exact (way_registerAll schemas registry).append (h.append (way_release _ _))

mutual

/-- One call goes from the registry that it is made on to the one that it leaves. -/
theorem Call.way_run : ∀ (call : Call) (registry : Registry),
    Way (call.run registry).moments registry (call.run registry).last
  | .register schema, registry => by
    rw [Call.run]
    exact Way.change (change_register registry schema) (Way.stay _)
  | .registerAll schemas, registry => by
    rw [Call.run]
    exact way_registerAll schemas registry
  | .unregister schema onward, registry => by
    rw [Call.run]
    by_cases h : schema ∈ registry.schemas
    · rw [unregister_of_mem h]
      exact Way.change (change_erase registry schema) (Way.stay _)
    · rw [unregister_of_notMem h]
      exact Way.stay registry
  | .withTemporary schemas body onward, registry =>
    way_run_withTemporary (way_runAll body (registry.registerAll schemas)) onward
  | .scoped schemas body onward, registry => by
    rw [run_scoped]
    exact way_run_withTemporary (way_runAll body (registry.registerAll schemas)) onward
  | .leave ending, registry => by
    rw [Call.run]
    exact Way.stay registry

/-- **A body goes its way in single changes**, however it ends. -/
theorem way_runAll : ∀ (calls : List Call) (registry : Registry),
    Way (runAll calls registry).moments registry (runAll calls registry).last
  | [], registry => by
    rw [runAll]
    exact Way.stay registry
  | call :: rest, registry => by
    have hfirst := call.way_run registry
    rw [runAll]
    cases (call.run registry).ending with
    | finished => exact hfirst.append (way_runAll rest (call.run registry).last)
    | failed => exact hfirst
    | panicked => exact hfirst

end

/-! ## Scopes -/

/-- A registry that some body comes by that begins without any schema. -/
def Reachable (registry : Registry) : Prop := ∃ calls, registry ∈ (runAll calls empty).moments

/-- No schema is ever registered twice. -/
theorem Reachable.nodup (h : registry.Reachable) : registry.schemas.Nodup := by
  obtain ⟨calls, hmem⟩ := h
  exact (way_runAll calls empty).nodup List.nodup_nil registry hmem

/-- What a scope leaves of a registry: `added` is what it added when it was entered, `course` how
its body went, and `after` what is registered when it is over. -/
structure Restored (registry : Registry) (schemas : List Schema) (calls : List Call)
    (added : List Schema) (course : Course) (after : Registry) : Prop where
  /-- The scope adds the schemas that are new to the registry, each once, behind all others. -/
  mem_added : ∀ schema, schema ∈ added ↔ schema ∈ schemas ∧ schema ∉ registry.schemas
  nodup_added : added.Nodup
  sublist_added : added.Sublist schemas
  course_eq : course = runAll calls ⟨registry.schemas ++ added⟩
  /-- The body is run, and exactly what the scope added is gone afterwards; the others keep their
  order. -/
  run : registry.withTemporary schemas (bodyOf calls) = (course, after)
  after_eq : after.schemas = course.last.schemas.filter (· ∉ added)
  /-- A body that leaves the list as it found it leaves no trace. -/
  unchanged : course.last = ⟨registry.schemas ++ added⟩ → after = registry
  /-- From the first schema that the scope adds to the last one that it takes away, the registry
  changes by one schema at a time. -/
  way : ∀ onward,
    Way ((Call.withTemporary schemas calls onward).run registry).moments registry after
  /-- At no moment a schema is registered twice, and a refused removal changes nothing. -/
  moments : ∀ onward, ∀ moment ∈ ((Call.withTemporary schemas calls onward).run registry).moments,
    moment.schemas.Nodup ∧ ∀ schema e, moment.unregister schema = .error e →
      schema ∉ moment.schemas ∧ ∀ onward,
        (Call.unregister schema onward).run moment = ⟨onward .failed, [moment], moment⟩

/-- A removal is refused when the schema is not registered, and then it changes nothing. -/
theorem run_unregister_of_error {schema : Schema} {e : SchemaError}
    (h : registry.unregister schema = .error e) :
    schema ∉ registry.schemas ∧ ∀ onward,
      (Call.unregister schema onward).run registry = ⟨onward .failed, [registry], registry⟩ := by
  refine ⟨fun hmem => ?_, fun onward => ?_⟩
  · exact absurd ((unregister_of_mem hmem).symm.trans h) (by simp)
  · rw [Call.run, h]

/-- A scope takes nothing out of a registry that was there before it. -/
theorem filter_append_added {added : List Schema}
    (hadded : ∀ schema ∈ added, schema ∉ registry.schemas) :
    (registry.schemas ++ added).filter (· ∉ added) = registry.schemas := by
  rw [List.filter_append, List.filter_eq_self.mpr, List.filter_eq_nil_iff.mpr, List.append_nil]
  · intro schema hmem
    simpa using hmem
  · intro schema hmem
    simpa using fun hother => hadded schema hother hmem

theorem nodup_registerAll (h : registry.schemas.Nodup) (schemas : List Schema) :
    (registry.registerAll schemas).schemas.Nodup :=
  (way_registerAll schemas registry).nodup h _ (way_registerAll schemas registry).last_mem

/-- Where no schema stands twice, a scope that is over at once leaves no trace. -/
theorem release_registerAll (h : registry.schemas.Nodup) (schemas : List Schema) :
    (registry.registerAll schemas).release (registry.scope schemas).1 = registry := by
  obtain ⟨-, -, hmem⟩ := scope_fst schemas registry
  have hschemas := schemas_release (registry.scope schemas).1 (nodup_registerAll h schemas)
  rw [registerAll_eq, filter_append_added fun schema hadded => ((hmem schema).mp hadded).2]
    at hschemas
  rw [registerAll_eq]
  exact congrArg Registry.mk hschemas

/-- What a scope leaves of a registry in which no schema stands twice. -/
theorem restored_withTemporary (h : registry.schemas.Nodup) (schemas : List Schema)
    (calls : List Call) :
    registry.Restored schemas calls (registry.scope schemas).1
      (runAll calls (registry.registerAll schemas))
      ((runAll calls (registry.registerAll schemas)).last.release (registry.scope schemas).1) := by
  obtain ⟨hsub, hnodup, hmem⟩ := scope_fst schemas registry
  refine ⟨hmem, hnodup, hsub, ?_, ?_, ?_, ?_, ?_, ?_⟩
  · rw [registerAll_eq]
  · rw [← scope_snd]
    rfl
  · have hway := way_runAll calls (registry.registerAll schemas)
    exact schemas_release _ (hway.nodup (nodup_registerAll h schemas) _ hway.last_mem)
  · intro hlast
    rw [← registerAll_eq] at hlast
    rw [hlast, release_registerAll h]
  · intro onward
    have hway := (Call.withTemporary schemas calls onward).way_run registry
    rwa [congrArg Course.last (run_withTemporary schemas calls onward registry)] at hway
  · intro onward moment hmoment
    have hway := (Call.withTemporary schemas calls onward).way_run registry
    exact ⟨hway.nodup h moment hmoment, fun schema e he => run_unregister_of_error he⟩

/-- **Temporary registration restores the registry.**  Whatever a body does while some schemas are
registered for a while, and however it ends, exactly what the scope added is gone afterwards; and a
session that lends its registry to a body has the same registry afterwards. -/
theorem withTemporary_restores (h : registry.Reachable) (schemas : List Schema)
    (calls : List Call) :
    (∃ added course after, registry.Restored schemas calls added course after) ∧
      ∀ (displayKey : String) (fallback : Fallback) {α : Type} (body : Session → α),
        (Session.withSchemas ⟨registry, displayKey, fallback⟩ schemas body).2 =
          ⟨registry, displayKey, fallback⟩ := by
  refine ⟨⟨_, _, _, restored_withTemporary h.nodup schemas calls⟩, ?_⟩
  intro displayKey fallback α body
  show (⟨(registry.scope schemas).2.release (registry.scope schemas).1, displayKey, fallback⟩ :
    Session) = _
  rw [scope_snd, release_registerAll h.nodup]

/-! ## A kennel with visitors -/

/-- A cat has a name. -/
def catSchema : Schema := ⟨2, "Cat", [⟨"name", .scalar⟩], none⟩

/-- A dog is taken away and comes back, a scope inside fails, a cat comes to stay, and then
everything breaks off. -/
def visit : List Call :=
  [.unregister dogSchema id, .register dogSchema,
    .scoped [dogSchema, catSchema] [.leave .failed] fun _ => .finished,
    .register catSchema, .leave .panicked]

/-- After a visit with a dog, of a user who is there already, only the cat is new. -/
theorem withTemporary_restores_kennel : kennel.Reachable ∧ ∃ added course,
    kennel.Restored [dogSchema, userSchema, dogSchema] visit added course
      ⟨[userSchema, catSchema]⟩ := by
  have hreachable : kennel.Reachable := by
    refine ⟨[.register userSchema], ?_⟩
    have hlast := (way_runAll [.register userSchema] empty).last_mem
    rwa [show (runAll [.register userSchema] empty).last = kennel by decide +kernel] at hlast
  obtain ⟨⟨added, course, after, h⟩, -⟩ :=
    withTemporary_restores hreachable [dogSchema, userSchema, dogSchema] visit
  have hkept : (kennel.withTemporary [dogSchema, userSchema, dogSchema] (bodyOf visit)).2 =
      ⟨[userSchema, catSchema]⟩ := by
    decide +kernel
  obtain rfl : ⟨[userSchema, catSchema]⟩ = after := hkept.symm.trans (congrArg Prod.snd h.run)
  exact ⟨hreachable, added, course, h⟩

end Registry

end TagTemplates
