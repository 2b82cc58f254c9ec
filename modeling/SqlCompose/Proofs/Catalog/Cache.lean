import SqlCompose.Catalog.Reflector
import SqlCompose.Proofs.Catalog.Inquiry

/-!
# The tables that a reflector keeps

A reflector serves one request after the other, over a connection that may answer differently each
time, or not at all. What a request does to the tables that are kept is told by events: attempts to
load a table, with what comes of them, and tables that are forgotten (`Reflector.events`).

What is kept under a name depends on the last event that concerns the name, and on nothing else:
each request keeps this (`Reflector.get?_serve`), and so does each sequence of requests
(`Reflector.get?_serveAll`). So a table is kept just if the last event is a load that has found it
(`Reflector.get?_iff_last_load`).
-/

namespace SqlCompose.Catalog

/-- What a reflector is asked to do. -/
inductive Request where
  /-- To tell of a table; with `again` it is loaded even if it is kept. -/
  | table (name : String) (again : Bool)
  /-- To forget a table. -/
  | refreshTable (name : String)
  /-- To forget all tables. -/
  | refresh
  | uniqueIndexes (table : String)
  | tableNames
  deriving DecidableEq

/-- The table that may be kept or forgotten for a request, if it is one. -/
def Request.subject? : Request → Option String
  | table name _ => some name
  | refreshTable name => some name
  | _ => none

/-! ## Events -/

/-- Something that happens to the tables that are kept. -/
inductive Event where
  /-- An attempt to load a table, and what comes of it. -/
  | load (name : String) (outcome : Except QueryError (Option Table))
  /-- A table is forgotten. -/
  | eviction (name : String)
  /-- All tables are forgotten. -/
  | clearing

namespace Event

/-- Whether an event can change what is kept under a name. -/
def concerns (name : String) : Event → Bool
  | load other _ => other == name
  | eviction other => other == name
  | clearing => true

/-- The table that is kept when an event has happened. -/
def table? : Event → Option Table
  | load _ (.ok found) => found
  | _ => none

/-- The last of some events that concerns a name. -/
def last? (name : String) (events : List Event) : Option Event :=
  (events.filter (·.concerns name)).getLast?

/-- What is kept under a name when events have happened, if it was `before` until then. -/
def kept (name : String) (before : Option Table) (events : List Event) : Option Table :=
  match last? name events with
  | some event => event.table?
  | none => before

variable {name : String} {event : Event} {events : List Event} {before : Option Table}

/-- Later events come first. -/
theorem last?_append (es fs : List Event) :
    last? name (es ++ fs) = (last? name fs).or (last? name es) := by
  rw [last?, List.filter_append, List.getLast?_append]
  rfl

/-- The last event that concerns a name does concern it. -/
theorem concerns_of_last? (h : last? name events = some event) : event.concerns name = true :=
  (List.mem_filter.1 (List.mem_of_getLast? h)).2

/-- A load concerns the table that is loaded. -/
@[simp] theorem concerns_load_self (outcome : Except QueryError (Option Table)) :
    (load name outcome).concerns name = true :=
  beq_self_eq_true name

/-- A table that is forgotten is concerned. -/
@[simp] theorem concerns_eviction_self : (eviction name).concerns name = true :=
  beq_self_eq_true name

/-- Without events everything stays as it was. -/
@[simp] theorem kept_nil : kept name before [] = before :=
  rfl

/-- Events that follow others go on with what those leave. -/
theorem kept_append (es fs : List Event) :
    kept name before (es ++ fs) = kept name (kept name before es) fs := by
  simp only [kept, last?_append]
  cases last? name fs <;> rfl

/-- The last event decides, if it concerns the name. -/
theorem kept_concat (h : event.concerns name = true) :
    kept name before (events ++ [event]) = event.table? := by
  have hlast : last? name [event] = some event := by simp [last?, h]
  rw [kept_append, kept, hlast]

/-- One event that concerns a name decides what is kept under it. -/
theorem kept_singleton (h : event.concerns name = true) : kept name before [event] = event.table? :=
  @kept_concat name event [] before h

/-- Only a load leaves a table behind. -/
theorem table?_eq_some {table : Table} (h : event.table? = some table)
    (hname : event.concerns name = true) : event = .load name (.ok (some table)) := by
  cases event with
  | load other outcome =>
    have hother : other = name := by simpa [concerns] using hname
    cases outcome with
    | error e => cases h
    | ok found =>
      have hfound : found = some table := h
      rw [hother, hfound]
  | eviction | clearing => cases h

/-- Where nothing was kept before, a table is kept if the last event is a load that has found it. -/
theorem kept_none_iff {table : Table} :
    kept name none events = some table ↔
      last? name events = some (.load name (.ok (some table))) := by
  rw [kept]
  cases hlast : last? name events with
  | none => simp
  | some event =>
    rw [Option.some.injEq]
    refine ⟨fun h => table?_eq_some h (concerns_of_last? hlast), ?_⟩
    rintro rfl
    rfl

end Event

namespace Reflector

/-! ## Requests -/

/-- The reflector when it has served a request over a connection. -/
def serve (r : Reflector) (d : Driver) : Request → Reflector
  | .table name again => (r.table d name again).2
  | .refreshTable name => r.refreshTable name
  | .refresh => r.refresh
  | .uniqueIndexes _ => r
  | .tableNames => r

/-- The events of a request. A table is loaded if it is not kept, or if it has to be loaded again;
then it is forgotten before. -/
def events (r : Reflector) (d : Driver) : Request → List Event
  | .table name true => [.eviction name, .load name (r.loader.table d name).outcome]
  | .table name false =>
    if r.isCached name then [] else [.load name (r.loader.table d name).outcome]
  | .refreshTable name => [.eviction name]
  | .refresh => [.clearing]
  | .uniqueIndexes _ => []
  | .tableNames => []

/-- The reflector when it has served requests, each over a connection of its own. -/
def serveAll (r : Reflector) : List (Driver × Request) → Reflector
  | [] => r
  | (d, request) :: rest => (r.serve d request).serveAll rest

/-- The events of several requests. -/
def history (r : Reflector) : List (Driver × Request) → List Event
  | [] => []
  | (d, request) :: rest => r.events d request ++ (r.serve d request).history rest

variable (r : Reflector) (d : Driver) (name : String)

/-! ## Single requests -/

theorem isCached_eq_false_iff : r.isCached name = false ↔ r.tables.get? name = none := by
  rw [isCached, NameMap.contains, Option.isSome_eq_false_iff, Option.isNone_iff_eq_none]

/-- A table is cached if it is kept. -/
theorem isCached_iff : r.isCached name = true ↔ ∃ table, r.tables.get? name = some table := by
  rw [isCached, NameMap.contains, Option.isSome_iff_exists]

/-- A table that is kept is not asked for. -/
theorem table_of_get? {r : Reflector} {name : String} {table : Table}
    (h : r.tables.get? name = some table) : r.table d name false = (⟨[], .ok (some table)⟩, r) := by
  simp only [Reflector.table, h, Bool.false_eq_true, if_false]

/-- A table that is not kept is loaded. -/
theorem table_of_get?_eq_none {r : Reflector} {name : String} (h : r.tables.get? name = none) :
    r.table d name false = r.load d name := by
  simp only [Reflector.table, h, Bool.false_eq_true, if_false]

/-- A table that is asked for again is forgotten and loaded. -/
theorem table_again : r.table d name true = (r.refreshTable name).load d name :=
  rfl

/-- A load answers what the loader tells. -/
theorem load_fst : (r.load d name).1 = r.loader.table d name := by
  rw [load]
  split <;> rfl

/-- A load leaves the loader alone. -/
@[simp] theorem loader_load : (r.load d name).2.loader = r.loader := by
  rw [load]
  split <;> rfl

/-- What was not kept before is kept after a load that has found it. -/
theorem get?_load_self {r : Reflector} {name : String} (h : r.tables.get? name = none) :
    (r.load d name).2.tables.get? name =
      (Event.load name (r.loader.table d name).outcome).table? := by
  rw [load]
  split
  · rename_i table hfound
    rw [NameMap.get?_insert_self, hfound]
    rfl
  · rename_i hnone
    rw [h]
    cases houtcome : (r.loader.table d name).outcome with
    | error e => rfl
    | ok found =>
      cases found with
      | none => rfl
      | some table => exact absurd houtcome (hnone table)

/-- A load leaves other tables alone. -/
theorem get?_load_of_ne {other : String} (h : other ≠ name) :
    (r.load d name).2.tables.get? other = r.tables.get? other := by
  rw [load]
  split
  · exact NameMap.get?_insert_of_ne _ _ h
  · rfl

/-- Nothing is kept of a forgotten table. -/
@[simp] theorem get?_refreshTable_self : (r.refreshTable name).tables.get? name = none :=
  NameMap.get?_erase_self _ _

/-- Forgetting a table leaves other tables alone. -/
theorem get?_refreshTable_of_ne {other : String} (h : other ≠ name) :
    (r.refreshTable name).tables.get? other = r.tables.get? other :=
  NameMap.get?_erase_of_ne _ h

/-- Nothing is kept when all tables are forgotten. -/
@[simp] theorem get?_refresh : r.refresh.tables.get? name = none :=
  rfl

/-- A load is made once, and tells what the request is answered. -/
theorem table_fst {r : Reflector} {name : String} {again : Bool}
    (h : again = true ∨ r.isCached name = false) :
    (r.table d name again).1 = r.loader.table d name := by
  cases again with
  | true =>
    rw [table_again, load_fst]
    rfl
  | false =>
    have hnone := (r.isCached_eq_false_iff name).1 (h.resolve_left Bool.false_ne_true)
    rw [table_of_get?_eq_none d hnone, load_fst]

/-- What a request for a table can do: nothing, or a load into a reflector that does not keep the
table, or does not keep it any more, and is the same otherwise. -/
theorem serve_table_cases (again : Bool) :
    (r.serve d (.table name again) = r ∧ r.events d (.table name again) = []) ∨
      ∃ (r' : Reflector) (before : List Event), r'.loader = r.loader ∧ r'.tables.get? name = none ∧
        (∀ other, other ≠ name → r'.tables.get? other = r.tables.get? other) ∧
        (∀ event ∈ before, event = .eviction name) ∧
        r.serve d (.table name again) = (r'.load d name).2 ∧
        r.events d (.table name again) =
          before ++ [.load name (r.loader.table d name).outcome] := by
  cases again with
  | true =>
    refine .inr ⟨r.refreshTable name, [.eviction name], rfl, r.get?_refreshTable_self name,
      fun _ h => r.get?_refreshTable_of_ne name h, fun _ h => List.mem_singleton.1 h, rfl, rfl⟩
  | false =>
    cases h : r.tables.get? name with
    | some table =>
      have hcached : r.isCached name = true := (r.isCached_iff name).2 ⟨table, h⟩
      exact .inl ⟨by rw [serve, table_of_get? d h], by rw [events, if_pos hcached]⟩
    | none =>
      have hcached : ¬ r.isCached name = true := by
        rw [(r.isCached_eq_false_iff name).2 h]
        exact Bool.false_ne_true
      refine .inr ⟨r, [], rfl, h, fun _ _ => rfl, nofun, ?_, ?_⟩
      · rw [serve, table_of_get?_eq_none d h]
      · rw [events, if_neg hcached, List.nil_append]

/-- A request leaves the loader alone. -/
@[simp] theorem loader_serve (request : Request) : (r.serve d request).loader = r.loader := by
  cases request with
  | table name again =>
    obtain ⟨hserve, -⟩ | ⟨r', before, hloader, -, -, -, hserve, -⟩ :=
      r.serve_table_cases d name again
    · rw [hserve]
    · rw [hserve, loader_load, hloader]
  | refreshTable | refresh | uniqueIndexes | tableNames => rfl

/-- Nothing is changed under a name but by requests about it, and by forgetting all tables. -/
theorem get?_serve_of_ne {request : Request} (hrequest : request ≠ .refresh)
    (hname : request.subject? ≠ some name) :
    (r.serve d request).tables.get? name = r.tables.get? name := by
  cases request with
  | table other again =>
    have hne : name ≠ other := fun h => hname (congrArg some h.symm)
    obtain ⟨hserve, -⟩ | ⟨r', before, -, -, hothers, -, hserve, -⟩ :=
      r.serve_table_cases d other again
    · rw [hserve]
    · rw [hserve, get?_load_of_ne _ _ _ hne, hothers name hne]
  | refreshTable other =>
    exact r.get?_refreshTable_of_ne other fun h => hname (congrArg some h.symm)
  | refresh => exact absurd rfl hrequest
  | uniqueIndexes | tableNames => rfl

/-- The events of a request concern the table that it is about only, but for forgetting all. -/
theorem concerns_of_mem_events {request : Request} {event : Event}
    (h : event ∈ r.events d request) (hrequest : request ≠ .refresh)
    (hname : request.subject? ≠ some name) : event.concerns name = false := by
  cases request with
  | table other again =>
    have hne : other ≠ name := fun h => hname (congrArg some h)
    obtain ⟨-, hevents⟩ | ⟨r', before, -, -, -, hbefore, -, hevents⟩ :=
      r.serve_table_cases d other again
    · rw [hevents] at h
      cases h
    · rw [hevents, List.mem_append, List.mem_singleton] at h
      obtain h | rfl := h
      · rw [hbefore event h]
        exact beq_eq_false_iff_ne.2 hne
      · exact beq_eq_false_iff_ne.2 hne
  | refreshTable other =>
    rw [events, List.mem_singleton] at h
    subst h
    exact beq_eq_false_iff_ne.2 fun h => hname (congrArg some h)
  | refresh => exact absurd rfl hrequest
  | uniqueIndexes | tableNames => cases h

/-- What a request about a table leaves under its name is told by the events. -/
theorem get?_serve_self {request : Request} (hname : request.subject? = some name) :
    (r.serve d request).tables.get? name =
      Event.kept name (r.tables.get? name) (r.events d request) := by
  cases request with
  | table other again =>
    obtain rfl : other = name := Option.some.inj hname
    obtain ⟨hserve, hevents⟩ | ⟨r', before, hloader, hnone, -, -, hserve, hevents⟩ :=
      r.serve_table_cases d other again
    · rw [hserve, hevents, Event.kept_nil]
    · rw [hserve, hevents, get?_load_self d hnone, hloader,
        Event.kept_concat (Event.concerns_load_self _)]
  | refreshTable other =>
    obtain rfl : other = name := Option.some.inj hname
    rw [serve, get?_refreshTable_self, events, Event.kept_singleton Event.concerns_eviction_self]
    rfl
  | refresh | uniqueIndexes | tableNames => cases hname

/-- What a request leaves under a name is told by its events. -/
theorem get?_serve (request : Request) : (r.serve d request).tables.get? name =
    Event.kept name (r.tables.get? name) (r.events d request) := by
  by_cases hrequest : request = .refresh
  · subst hrequest
    rw [serve, get?_refresh, events, Event.kept_singleton rfl]
    rfl
  by_cases hname : request.subject? = some name
  · exact get?_serve_self r d name hname
  · have hlast : Event.last? name (r.events d request) = none := by
      rw [Event.last?, List.getLast?_eq_none_iff, List.filter_eq_nil_iff]
      intro event hevent
      rw [concerns_of_mem_events r d name hevent hrequest hname]
      exact Bool.false_ne_true
    rw [get?_serve_of_ne _ _ _ hrequest hname, Event.kept, hlast]

/-! ## Sequences of requests -/

/-- So does a sequence of requests. -/
@[simp] theorem loader_serveAll (steps : List (Driver × Request)) :
    (r.serveAll steps).loader = r.loader := by
  induction steps generalizing r with
  | nil => rfl
  | cons step rest ih => rw [serveAll, ih, loader_serve]

/-- What requests leave under a name is told by all their events. -/
theorem get?_serveAll (steps : List (Driver × Request)) : (r.serveAll steps).tables.get? name =
    Event.kept name (r.tables.get? name) (r.history steps) := by
  induction steps generalizing r with
  | nil => rfl
  | cons step rest ih => rw [serveAll, history, ih, Event.kept_append, get?_serve]

/-- After any requests to a new reflector, each over a connection of its own, a table is kept just if
the last event that concerns its name is a load that has found it. A table that is kept is told
without a query; a table that is not kept, or is asked for again, is loaded once, and what is told is
what comes of this load. Nothing else is kept or forgotten for a request, but for forgetting all. -/
theorem get?_iff_last_load (l : TableLoader) (steps : List (Driver × Request)) :
    let r := (new l).serveAll steps
    let last name := Event.last? name ((new l).history steps)
    (∀ name table, r.tables.get? name = some table ↔
      last name = some (.load name (.ok (some table)))) ∧
    (∀ name, r.isCached name = true ↔ ∃ table, last name = some (.load name (.ok (some table)))) ∧
    (∀ d name table, r.tables.get? name = some table →
      r.table d name false = (⟨[], .ok (some table)⟩, r)) ∧
    (∀ d name again, again = true ∨ r.isCached name = false →
      (r.table d name again).1 = l.table d name) ∧
    ∀ d request name, request ≠ .refresh → request.subject? ≠ some name →
      (r.serve d request).tables.get? name = r.tables.get? name := by
  intro r last
  have hkept : ∀ name table, r.tables.get? name = some table ↔
      last name = some (.load name (.ok (some table))) := by
    intro name table
    rw [get?_serveAll]
    exact Event.kept_none_iff
  refine ⟨hkept, fun name => ?_, fun d name table h => table_of_get? d h, ?_, ?_⟩
  · simp only [isCached_iff, hkept]
  · intro d name again h
    rw [table_fst d h, loader_serveAll]
    rfl
  · exact fun d request name => get?_serve_of_ne r d name

/-- Of a table that was found, and could not be loaded when it was asked for again. -/
theorem get?_iff_last_load_failing :
    let found : Driver :=
      { Driver.findingNothing "sqlite" with queryAll := fun _ => .ok [⟨[("name", .text "id")]⟩] }
    let failing : Driver :=
      { Driver.findingNothing "sqlite" with queryAll := fun _ => .error (.driver "locked") }
    let loader := Loader.sqlite.tableLoader
    let before := (new loader).serveAll [(found, .table "t" false)]
    let r := (new loader).serveAll [(found, .table "t" false), (failing, .table "t" true)]
    before.isCached "t" = true ∧ (before.table failing "t" false).1.queries = [] ∧
      r.isCached "t" = false ∧ (r.table found "t" false).1 = loader.table found "t" ∧
      (r.serve found (.table "u" false)).tables.get? "t" = r.tables.get? "t" := by
  intro found failing loader before r
  have hbefore : before.isCached "t" = true := by decide +kernel
  have hr : r.isCached "t" = false := by decide +kernel
  obtain ⟨table, htable⟩ := (before.isCached_iff "t").1 hbefore
  obtain ⟨-, -, hanswer, -, -⟩ := get?_iff_last_load loader [(found, .table "t" false)]
  obtain ⟨-, -, -, hload, hothers⟩ :=
    get?_iff_last_load loader [(found, .table "t" false), (failing, .table "t" true)]
  refine ⟨hbefore, ?_, hr, hload found "t" false (.inr hr), ?_⟩
  · exact congrArg (·.1.queries) (hanswer failing "t" table htable)
  · exact hothers found (.table "u" false) "t" (by decide) (by decide)

end Reflector

end SqlCompose.Catalog
