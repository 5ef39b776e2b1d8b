import TableCatalog.Proofs.Store.Action

/-!
# The history of a store

The deeds of a run, oldest first, are its history. What is there of a database can be read off what
was done to it since it was made the last time, if it was not dropped again: its location is from
its making, and each table has the identity of the first time that it was put, the schema and the
audit fields of the last time, and all branches that were registered in between.
-/

namespace TableCatalog.Store

variable {h since : List Deed} {x : Deed} {root name table : String} {properties : Options}

/-- The database that a deed is about. -/
def Deed.database : Deed → String
  | .created database _ | .dropped database | .altered database _ _ | .audited database _
  | .put database _ _ | .branched database _ _ => database

def Deed.MakesOrDrops (name : String) : Deed → Prop
  | .created database _ | .dropped database => database = name
  | _ => False

instance (name : String) : (x : Deed) → Decidable (x.MakesOrDrops name)
  | .created database _ | .dropped database => inferInstanceAs (Decidable (database = name))
  | .altered _ _ _ | .audited _ _ | .put _ _ _ | .branched _ _ _ =>
    inferInstanceAs (Decidable False)

/-- The deeds of a run, oldest first. -/
def deeds (s : Store) : List Action → List Deed
  | [] => []
  | a :: rest => (a.deed? (s.perform a).1).toList ++ (s.perform a).2.deeds rest

/-- The last time that a database was made or dropped it was made, and this was done since. -/
def IsMade (h : List Deed) (name : String) (properties : Options) (since : List Deed) : Prop :=
  ∃ before, h = before ++ .created name properties :: since ∧ ∀ x ∈ since, ¬ x.MakesOrDrops name

/-- What was put as a table, in turn. -/
def puts (database table : String) (h : List Deed) : List Version :=
  h.filterMap fun
    | .put database' table' version =>
      if database' = database ∧ table' = table then some version else none
    | _ => none

/-! ## The last making of a database -/

theorem not_isMade_nil : ¬ IsMade [] name properties since := by
  rintro ⟨before, split, -⟩
  simp at split

/-- One more deed makes the database, or it adds to what was done since it was made. -/
theorem isMade_append_iff :
    IsMade (h ++ [x]) name properties since ↔
      (x = .created name properties ∧ since = []) ∨
      (¬ x.MakesOrDrops name ∧
        ∃ earlier, since = earlier ++ [x] ∧ IsMade h name properties earlier) := by
  constructor
  · rintro ⟨before, split, quiet⟩
    rcases List.eq_nil_or_concat since with rfl | ⟨earlier, y, rfl⟩
    · obtain ⟨-, same⟩ := List.append_inj' split rfl
      exact .inl ⟨List.singleton_inj.mp same, rfl⟩
    · rw [List.concat_eq_append, ← List.cons_append, ← List.append_assoc] at split
      obtain ⟨history, same⟩ := List.append_inj' split rfl
      obtain rfl := List.singleton_inj.mp same
      rw [List.concat_eq_append] at quiet
      refine .inr ⟨quiet x (by simp), earlier, List.concat_eq_append, before, history, ?_⟩
      intro z mem
      exact quiet z (List.mem_append_left _ mem)
  · rintro (⟨rfl, rfl⟩ | ⟨quiet, earlier, rfl, before, rfl, quietBefore⟩)
    · exact ⟨h, rfl, by simp⟩
    · refine ⟨before, by simp, ?_⟩
      intro z mem
      rcases List.mem_append.mp mem with mem | mem
      · exact quietBefore z mem
      · rwa [List.mem_singleton.mp mem]

theorem IsMade.append (made : IsMade h name properties since) (quiet : ¬ x.MakesOrDrops name) :
    IsMade (h ++ [x]) name properties (since ++ [x]) :=
  isMade_append_iff.mpr (.inr ⟨quiet, since, rfl, made⟩)

/-- A history does not have two last makings of a database. -/
theorem IsMade.unique {properties' : Options} {since' : List Deed}
    (made : IsMade h name properties since) (made' : IsMade h name properties' since') :
    properties = properties' ∧ since = since' := by
  obtain ⟨before, split, quiet⟩ := made
  obtain ⟨before', split', quiet'⟩ := made'
  rw [split] at split'
  -- the later one of two makings would stand behind the other
  rcases List.append_eq_append_iff.mp split' with ⟨between, -, rest⟩ | ⟨between, -, rest⟩
  · cases between with
    | nil =>
      obtain ⟨same, later⟩ := List.cons.inj rest
      exact ⟨(Deed.created.inj same).2, later⟩
    | cons y between =>
      obtain ⟨-, rfl⟩ := List.cons.inj rest
      exact absurd rfl (quiet (.created name properties') (by simp))
  · cases between with
    | nil =>
      obtain ⟨same, later⟩ := List.cons.inj rest
      exact ⟨(Deed.created.inj same).2.symm, later.symm⟩
    | cons y between =>
      obtain ⟨-, rfl⟩ := List.cons.inj rest
      exact absurd rfl (quiet' (.created name properties) (by simp))

/-! ## What is told of a table -/

theorem puts_append (h h' : List Deed) :
    puts name table (h ++ h') = puts name table h ++ puts name table h' :=
  List.filterMap_append

theorem puts_singleton (version : Version) :
    puts name table [.put name table version] = [version] := by
  simp [puts]

/-- A deed is about another table, or about no table at all. -/
def Deed.IsSilent (name table : String) (x : Deed) : Prop :=
  puts name table [x] = [] ∧ ∀ branch, x ≠ .branched name table branch

theorem Deed.isSilent_of_ne (other : x.database ≠ name) : x.IsSilent name table := by
  cases x with
  | put database table' version => exact ⟨by simp_all [puts, Deed.database], nofun⟩
  | branched database table' branch => exact ⟨rfl, by simp_all [Deed.database]⟩
  | created | dropped | altered | audited => exact ⟨rfl, nofun⟩

theorem Deed.isSilent_put {other : String} (differs : other ≠ table) (version : Version) :
    (Deed.put name table version).IsSilent name other :=
  ⟨by simp [puts, differs.symm], nofun⟩

/-- What a history tells of a table that is there, or is not there. -/
structure Tells (name table : String) (since : List Deed) (entry : Option Table) : Prop where
  first : (puts name table since).head?.map (·.id) = entry.map (·.id)
  last : (puts name table since).getLast?.map (fun v => (v.schema, v.audit)) =
    entry.map (fun t => (t.schema, t.audit))
  branches : ∀ branch, .branched name table branch ∈ since ↔
    ∃ t ∈ entry, t.branches.contains branch = true

namespace Tells

variable {entry : Option Table} {old : Table} {schema : Schema} {audit : Audit} {id : Nat}

/-- A table is there exactly if it was put. -/
theorem puts_ne_nil_iff (tells : Tells name table since entry) :
    puts name table since ≠ [] ↔ ∃ t, entry = some t := by
  have first := tells.first
  cases versions : puts name table since with
  | nil =>
    cases entry with
    | none => simp
    | some t => simp [versions] at first
  | cons version rest =>
    cases entry with
    | none => simp [versions] at first
    | some t => simp

theorem nil : Tells name table [] none where
  first := rfl
  last := rfl
  branches := by simp

theorem silent (tells : Tells name table since entry) (quiet : x.IsSilent name table) :
    Tells name table (since ++ [x]) entry := by
  have same : puts name table (since ++ [x]) = puts name table since := by
    rw [puts_append, quiet.1, List.append_nil]
  refine ⟨same ▸ tells.first, same ▸ tells.last, ?_⟩
  intro branch
  rw [← tells.branches, List.mem_append, List.mem_singleton]
  exact or_iff_left (quiet.2 branch).symm

theorem put (tells : Tells name table since none) :
    Tells name table (since ++ [.put name table { schema, audit, id }])
      (some { id, schema, audit }) := by
  have never : puts name table since = [] := by
    simpa using mt tells.puts_ne_nil_iff.mp
  refine ⟨?_, ?_, ?_⟩
  · simp [puts_append, puts_singleton, never]
  · simp [puts_append, puts_singleton, never]
  · intro branch
    have unknown : .branched name table branch ∉ since := by simp [tells.branches]
    simp [unknown, NameMap.contains]

theorem replaced (tells : Tells name table since (some old)) :
    Tells name table (since ++ [.put name table { schema, audit, id := old.id }])
      (some { old with schema, audit }) := by
  have first := tells.first
  refine ⟨?_, ?_, ?_⟩
  · cases versions : puts name table since with
    | nil => simp [versions] at first
    | cons version rest => simpa [puts_append, puts_singleton, versions] using first
  · simp [puts_append, puts_singleton]
  · intro branch
    simp [tells.branches]

theorem branched (tells : Tells name table since (some old)) (branch : String) :
    Tells name table (since ++ [.branched name table branch])
      (some { old with branches := old.branches.add branch }) := by
  have same : puts name table (since ++ [.branched name table branch]) = puts name table since := by
    rw [puts_append]
    exact List.append_nil _
  refine ⟨same ▸ tells.first, same ▸ tells.last, ?_⟩
  intro other
  by_cases new : other = branch
  · simp [new, NameSet.add, NameMap.contains]
  · simp [tells.branches, new, NameSet.add, NameMap.contains, NameMap.get?_insert]

end Tells

/-! ## What is told of a database -/

/-- What a history tells of a database that is there, or is not there. -/
inductive Records (root name : String) (h : List Deed) : Option Database → Prop
  | missing : (∀ properties since, ¬ IsMade h name properties since) → Records root name h none
  | there {properties : Options} {since : List Deed} {d : Database} :
      IsMade h name properties since →
      d.location = locationOf root name properties →
      (∀ table, Tells name table since (d.tables.get? table)) → Records root name h (some d)

namespace Records

variable {d d' : Database}

theorem isMade_iff {entry : Option Database} (records : Records root name h entry) :
    (∃ properties since, IsMade h name properties since) ↔ ∃ d, entry = some d := by
  cases records with
  | missing never => simp [never]
  | there made _ _ => exact ⟨fun _ => ⟨_, rfl⟩, fun _ => ⟨_, _, made⟩⟩

/-- What is done to other databases is not about this one. -/
theorem of_ne {entry : Option Database} (records : Records root name h entry)
    (other : x.database ≠ name) : Records root name (h ++ [x]) entry := by
  have quiet : ¬ x.MakesOrDrops name := by
    cases x <;> simp_all [Deed.database, Deed.MakesOrDrops]
  cases records with
  | missing never =>
    refine .missing fun properties since made => ?_
    rcases isMade_append_iff.mp made with ⟨rfl, -⟩ | ⟨-, earlier, -, made⟩
    · exact other rfl
    · exact never properties earlier made
  | there made location tables =>
    refine .there (made.append quiet) location fun table => ?_
    exact (tables table).silent (Deed.isSilent_of_ne other)

/-- A deed of this database adds to what was done since it was made. -/
theorem grows (records : Records root name h (some d)) (quiet : ¬ x.MakesOrDrops name)
    (location : d'.location = d.location)
    (tables : ∀ since table, Tells name table since (d.tables.get? table) →
      Tells name table (since ++ [x]) (d'.tables.get? table)) :
    Records root name (h ++ [x]) (some d') := by
  cases records with
  | there made place before =>
    exact .there (made.append quiet) (location.trans place) fun table => tables _ _ (before table)

theorem created (s : Store) (properties : Options) :
    Records s.root name (h ++ [.created name properties])
      (some (s.newDatabase name properties)) := by
  have made : IsMade (h ++ [.created name properties]) name properties [] :=
    isMade_append_iff.mpr (.inl ⟨rfl, rfl⟩)
  exact .there made rfl fun table => .nil

theorem dropped : Records root name (h ++ [.dropped name]) none := by
  refine .missing fun properties since made => ?_
  rcases isMade_append_iff.mp made with ⟨same, -⟩ | ⟨quiet, -⟩
  · cases same
  · exact quiet rfl

theorem altered (records : Records root name h (some d)) (remove : List String)
    (set options : Options) :
    Records root name (h ++ [.altered name remove set]) (some { d with options }) := by
  refine records.grows id rfl fun since table before => ?_
  exact before.silent ⟨rfl, nofun⟩

theorem audited (records : Records root name h (some d)) (audit : Audit) :
    Records root name (h ++ [.audited name audit]) (some { d with audit }) := by
  refine records.grows id rfl fun since table before => ?_
  exact before.silent ⟨rfl, nofun⟩

section Tables

variable {t : Table} {schema : Schema} {audit : Audit} {id : Nat}

/-- A deed of one table does not touch the others. -/
theorem insert (records : Records root name h (some d)) (quiet : ¬ x.MakesOrDrops name)
    (others : ∀ other, other ≠ table → x.IsSilent name other)
    (told : ∀ since, Tells name table since (d.tables.get? table) →
      Tells name table (since ++ [x]) (some t)) :
    Records root name (h ++ [x]) (some { d with tables := d.tables.insert table t }) := by
  refine records.grows quiet rfl fun since table' before => ?_
  by_cases same : table' = table
  · subst same
    rw [NameMap.get?_insert_self]
    exact told since before
  · rw [NameMap.get?_insert, if_neg same]
    exact before.silent (others table' same)

theorem put (records : Records root name h (some d)) (new : d.tables.get? table = none) :
    Records root name (h ++ [.put name table { schema, audit, id }])
      (some { d with tables := d.tables.insert table { id, schema, audit } }) := by
  refine records.insert not_false (fun other differs => Deed.isSilent_put differs _) ?_
  intro since before
  rw [new] at before
  exact before.put

theorem replaced (records : Records root name h (some d)) (there : d.tables.get? table = some t) :
    Records root name (h ++ [.put name table { schema, audit, id := t.id }])
      (some { d with tables := d.tables.insert table { t with schema, audit } }) := by
  refine records.insert not_false (fun other differs => Deed.isSilent_put differs _) ?_
  intro since before
  rw [there] at before
  exact before.replaced

theorem branched (records : Records root name h (some d)) (there : d.tables.get? table = some t)
    (branch : String) :
    Records root name (h ++ [.branched name table branch])
      (some { d with
        tables := d.tables.insert table { t with branches := t.branches.add branch } }) := by
  refine records.insert not_false ?_ ?_
  · intro other differs
    exact ⟨rfl, by simp [differs.symm]⟩
  · intro since before
    rw [there] at before
    exact before.branched branch

end Tables

end Records

/-! ## Runs -/

theorem Effect.root_eq {s s' : Store} {deed : Option Deed} (effect : Effect s deed s') :
    s'.root = s.root := by
  cases effect <;> rfl

theorem Effect.get?_of_ne {s s' : Store} (effect : Effect s (some x) s')
    (other : x.database ≠ name) : s'.databases.get? name = s.databases.get? name := by
  cases effect with
  | dropped => exact (NameMap.get?_erase _ _ _).trans (if_neg (Ne.symm other))
  | created | altered | audited | replaced | put | branched =>
    exact (get?_setDatabase _ _ _ _).trans (if_neg (Ne.symm other))

theorem Records.step {s s' : Store} {deed : Option Deed}
    (records : Records s.root name h (s.databases.get? name)) (effect : Effect s deed s') :
    Records s.root name (h ++ deed.toList) (s'.databases.get? name) := by
  cases deed with
  | none =>
    cases effect
    simpa using records
  | some x =>
    by_cases own : x.database = name
    · subst own
      -- what is done to this very database, case by case
      cases effect with
      | created =>
        simp only [Deed.database, get?_setDatabase_self, Option.toList_some]
        exact .created s _
      | dropped =>
        simp only [Deed.database, NameMap.get?_erase, if_true, Option.toList_some]
        exact .dropped
      | altered found =>
        simp only [Deed.database, found, get?_setDatabase_self, Option.toList_some] at records ⊢
        exact records.altered _ _ _
      | audited found =>
        simp only [Deed.database, found, get?_setDatabase_self, Option.toList_some] at records ⊢
        exact records.audited _
      | replaced found there =>
        simp only [Deed.database, found, get?_setDatabase_self, Option.toList_some] at records ⊢
        exact records.replaced there
      | put found new =>
        simp only [Deed.database, found, get?_setDatabase_self, Option.toList_some] at records ⊢
        exact records.put new
      | branched found there =>
        simp only [Deed.database, found, get?_setDatabase_self, Option.toList_some] at records ⊢
        exact records.branched there _
    · rw [effect.get?_of_ne own]
      exact records.of_ne own

theorem Records.run {s : Store} (actions : List Action)
    (records : Records s.root name h (s.databases.get? name)) :
    Records s.root name (h ++ s.deeds actions) ((s.after actions).databases.get? name) := by
  induction actions generalizing s h with
  | nil => simpa [deeds, after] using records
  | cons a rest ih =>
    have effect := effect_perform s a
    have later := ih (effect.root_eq.symm ▸ records.step effect)
    rw [effect.root_eq, List.append_assoc] at later
    exact later

/-- **What is there is what the history tells**, after every run that starts without databases. -/
theorem records_after {fresh : Store} (empty : fresh.databases = NameMap.empty)
    (actions : List Action) (name : String) :
    Records fresh.root name (fresh.deeds actions)
      ((fresh.after actions).databases.get? name) := by
  have start : Records fresh.root name [] (fresh.databases.get? name) := by
    rw [empty]
    exact .missing fun _ _ => not_isMade_nil
  exact start.run actions

end TableCatalog.Store
