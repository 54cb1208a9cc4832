import IssuanceCheck.Dns.Store

namespace IssuanceCheck.Dns

def Zone.enter (zone : Zone) : Query × Except LookupError Record → Zone
  | (query, .ok record) => zone.add query record
  | (query, .error error) => zone.fail query error

def entered : Except LookupError Record → Answer → Answer
  | .ok record, answer => answer.map (· ++ [record])
  | .error error, _ => .error error

namespace Zone

variable {zone : Zone} {x y : Query × Except LookupError Record}

theorem lookup_enter (zone : Zone) (x : Query × Except LookupError Record) (query : Query) :
    (zone.enter x).lookup query =
      if query = x.1 then entered x.2 (zone.lookup query) else zone.lookup query := by
  obtain ⟨_, _ | _⟩ := x <;> rfl

theorem enter_comm (zone : Zone) (h : x.1 ≠ y.1) :
    (zone.enter x).enter y = (zone.enter y).enter x := by
  have hlookup : ((zone.enter x).enter y).lookup = ((zone.enter y).enter x).lookup := by
    funext query
    simp only [lookup_enter]
    by_cases hx : query = x.1
    · have hy : query ≠ y.1 := hx ▸ h
      simp only [if_pos hx, if_neg hy]
    · simp only [if_neg hx]
  exact congrArg Zone.mk hlookup

end Zone

namespace Store

variable {query : Query} {store : Store} {history : List Step} {step : Step}

namespace Step

def entry? : Step → Option (Query × Except LookupError Record)
  | addCaa record => some (⟨record.name, .caa⟩, .ok (.caa record))
  | addAddress name (.v4 address) => some (⟨name, .a⟩, .ok (.a address))
  | addAddress name (.v6 address) => some (⟨name, .aaaa⟩, .ok (.aaaa address))
  | fail query error => some (query, .error error)
  | lookup _ => none

def asks? : Step → Option Query
  | lookup query => some query
  | _ => none

def record? (query : Query) (step : Step) : Option Record :=
  match step.entry? with
  | some (q, .ok record) => if q = query then some record else none
  | _ => none

def failure? (query : Query) (step : Step) : Option LookupError :=
  match step.entry? with
  | some (q, .error error) => if q = query then some error else none
  | _ => none

def nameAsked? (type : RecordType) : Step → Option String
  | lookup query => if query.type = type then some query.name else none
  | _ => none

theorem entry_or_lookup (step : Step) :
    (∃ entry, step.entry? = some entry) ∨ ∃ query, step = lookup query := by
  rcases step with _ | ⟨_, _ | _⟩ | _ | query
  · exact .inl ⟨_, rfl⟩
  · exact .inl ⟨_, rfl⟩
  · exact .inl ⟨_, rfl⟩
  · exact .inl ⟨_, rfl⟩
  · exact .inr ⟨query, rfl⟩

theorem asks?_of_entry {entry : Query × Except LookupError Record} (h : step.entry? = some entry) :
    step.asks? = none := by
  cases step with
  | lookup => cases h
  | _ => rfl

end Step

theorem step_of_entry {entry : Query × Except LookupError Record} (h : step.entry? = some entry) :
    store.step step = (none, { store with zone := store.zone.enter entry }) := by
  rcases step with _ | ⟨_, _ | _⟩ | _ | _ <;> cases h <;> rfl

theorem step_lookup (store : Store) (query : Query) :
    store.step (.lookup query) =
      (some (store.zone.lookup query), { store with log := store.log ++ [query] }) := rfl

theorem run_of_entry {entry : Query × Except LookupError Record} (h : step.entry? = some entry)
    (store : Store) (steps : List Step) :
    store.run (step :: steps) = Store.run { store with zone := store.zone.enter entry } steps := by
  rw [run, step_of_entry h]
  rfl

theorem run_lookup (store : Store) (query : Query) (steps : List Step) :
    store.run (.lookup query :: steps) =
      (store.zone.lookup query :: (Store.run ⟨store.zone, store.log ++ [query]⟩ steps).1,
        (Store.run ⟨store.zone, store.log ++ [query]⟩ steps).2) := rfl

theorem run_append (store : Store) (front behind : List Step) :
    store.run (front ++ behind) =
      ((store.run front).1 ++ ((store.run front).2.run behind).1,
        ((store.run front).2.run behind).2) := by
  induction front generalizing store with
  | nil => rfl
  | cons step front ih => simp only [List.cons_append, run, ih, List.append_assoc]

/-- The answer that a history amounts to: the last failure that was set for the query, or else the
records that were added for it. -/
def recollection (query : Query) (history : List Step) : Answer :=
  match (history.filterMap (Step.failure? query)).getLast? with
  | some error => .error error
  | none => .ok (history.filterMap (Step.record? query))

theorem recollection_of_failure {error : LookupError}
    (h : (history.filterMap (Step.failure? query)).getLast? = some error) :
    recollection query history = .error error := by
  rw [recollection, h]

theorem recollection_of_no_failure (h : history.filterMap (Step.failure? query) = []) :
    recollection query history = .ok (history.filterMap (Step.record? query)) := by
  rw [recollection, h]
  rfl

theorem recollection_append_of_other (hrecord : step.record? query = none)
    (hfailure : step.failure? query = none) :
    recollection query (history ++ [step]) = recollection query history := by
  simp [recollection, List.filterMap_append, hrecord, hfailure]

theorem recollection_append_of_entry {entry : Except LookupError Record}
    (h : step.entry? = some (query, entry)) :
    recollection query (history ++ [step]) = entered entry (recollection query history) := by
  cases entry with
  | ok record =>
      have hrecord : step.record? query = some record := by simp [Step.record?, h]
      have hfailure : step.failure? query = none := by simp [Step.failure?, h]
      simp only [recollection, List.filterMap_append, List.filterMap_cons_none hfailure,
        List.filterMap_cons_some hrecord, List.filterMap_nil, List.append_nil]
      cases (history.filterMap (Step.failure? query)).getLast? <;> rfl
  | error error =>
      have hfailure : step.failure? query = some error := by simp [Step.failure?, h]
      rw [recollection_of_failure]
      · rfl
      · simp [List.filterMap_append, hfailure]

theorem recollection_append_of_ne {entry : Query × Except LookupError Record}
    (h : step.entry? = some entry) (hne : query ≠ entry.1) :
    recollection query (history ++ [step]) = recollection query history := by
  obtain ⟨q, _ | _⟩ := entry <;>
    exact recollection_append_of_other (by simp [Step.record?, h, Ne.symm hne])
      (by simp [Step.failure?, h, Ne.symm hne])

structure Recalls (history : List Step) (store : Store) : Prop where
  lookup : ∀ query, store.zone.lookup query = recollection query history
  log : store.log = history.filterMap Step.asks?

theorem empty_recalls : Recalls [] empty := ⟨fun _ => rfl, rfl⟩

theorem Recalls.step_next (h : Recalls history store) (step : Step) :
    Recalls (history ++ [step]) (store.step step).2 := by
  rcases step.entry_or_lookup with ⟨entry, hentry⟩ | ⟨query, rfl⟩
  · rw [step_of_entry hentry]
    refine ⟨fun q => ?_, ?_⟩
    · rw [Zone.lookup_enter, h.lookup]
      split
      next hq => exact (recollection_append_of_entry (hq ▸ hentry)).symm
      next hq => exact (recollection_append_of_ne hentry hq).symm
    · rw [List.filterMap_append, List.filterMap_cons_none (Step.asks?_of_entry hentry), ← h.log]
      exact (List.append_nil _).symm
  · rw [step_lookup]
    refine ⟨fun q => ?_, ?_⟩
    · rw [recollection_append_of_other rfl rfl]
      exact h.lookup q
    · rw [List.filterMap_append, ← h.log]
      rfl

theorem Recalls.run (h : Recalls history store) (steps : List Step) :
    Recalls (history ++ steps) (store.run steps).2 := by
  induction steps generalizing history store with
  | nil => rwa [List.append_nil]
  | cons step steps ih =>
      rw [List.append_cons]
      exact ih (h.step_next step)

theorem run_recalls (history : List Step) : Recalls history (empty.run history).2 :=
  empty_recalls.run history

theorem length_run (store : Store) (steps : List Step) :
    (store.run steps).1.length = (steps.filterMap Step.asks?).length := by
  induction steps generalizing store with
  | nil => rfl
  | cons step steps ih =>
      rcases step.entry_or_lookup with ⟨entry, hentry⟩ | ⟨query, rfl⟩
      · rw [run_of_entry hentry, ih, List.filterMap_cons_none (Step.asks?_of_entry hentry)]
      · rw [run_lookup, List.length_cons, ih]
        rfl

theorem getElem?_run (store : Store) (front : List Step) (query : Query) (behind : List Step) :
    (store.run (front ++ .lookup query :: behind)).1[(front.filterMap Step.asks?).length]? =
      some ((store.run front).2.zone.lookup query) := by
  rw [run_append, run_lookup, ← length_run store front]
  simp

theorem run_congr {other : Store} (h : store.zone = other.zone) (steps : List Step) :
    (store.run steps).1 = (other.run steps).1 := by
  induction steps generalizing store other with
  | nil => rfl
  | cons step steps ih =>
      rcases step.entry_or_lookup with ⟨entry, hentry⟩ | ⟨query, rfl⟩
      · rw [run_of_entry hentry, run_of_entry hentry]
        exact ih (congrArg (·.enter entry) h)
      · rw [run_lookup, run_lookup, h]
        exact congrArg (List.cons _) (ih rfl)

theorem run_lookups (store : Store) (queries : List Query) :
    (store.run (queries.map .lookup)).1 = queries.map store.zone.lookup ∧
      (store.run (queries.map .lookup)).2.zone = store.zone := by
  induction queries generalizing store with
  | nil => exact ⟨rfl, rfl⟩
  | cons query queries ih =>
      obtain ⟨hanswers, hzone⟩ := ih ⟨store.zone, store.log ++ [query]⟩
      rw [List.map_cons, run_lookup]
      exact ⟨congrArg _ hanswers, hzone⟩

theorem queried_of_recalls (h : Recalls history store) (type : RecordType) :
    store.queried type = history.filterMap (Step.nameAsked? type) := by
  rw [queried, namesAsked, h.log]
  clear h
  induction history with
  | nil => rfl
  | cons step history ih =>
      rcases step.entry_or_lookup with ⟨entry, hentry⟩ | ⟨query, rfl⟩
      · have hname : step.nameAsked? type = none := by
          cases step with
          | lookup => cases hentry
          | _ => rfl
        rw [List.filterMap_cons_none (Step.asks?_of_entry hentry), List.filterMap_cons_none hname]
        exact ih
      · by_cases ht : query.type = type <;> simp [Step.asks?, Step.nameAsked?, ht, ih]

/-- A look-up gets the last failure that was set for its own query, and without one the records that
were added for it; nothing else in the history counts, look-ups least of all. Entries for different
queries may change places, and the log has every name that was looked up. -/
theorem run_answers_from_history (history : List Step) :
    let answers := (empty.run history).1
    let store := (empty.run history).2
    answers.length = (history.filterMap Step.asks?).length ∧
      (∀ front query behind, history = front ++ .lookup query :: behind →
        ∃ answer, answers[(front.filterMap Step.asks?).length]? = some answer ∧
          (∀ error, (front.filterMap (Step.failure? query)).getLast? = some error →
            answer = .error error) ∧
          (front.filterMap (Step.failure? query) = [] →
            answer = .ok (front.filterMap (Step.record? query)))) ∧
      (∀ step other entry entry', step.entry? = some entry → other.entry? = some entry' →
        entry.1 ≠ entry'.1 → store.run [step, other] = store.run [other, step]) ∧
      (∀ (queries : List Query) later, (store.run (queries.map .lookup ++ later)).1 =
        queries.map store.zone.lookup ++ (store.run later).1) ∧
      ∀ type, store.queried type = history.filterMap (Step.nameAsked? type) := by
  intro answers store
  refine ⟨length_run empty history, ?_, ?_, ?_, queried_of_recalls (run_recalls history)⟩
  · intro front query behind hhistory
    refine ⟨recollection query front, ?_, fun _ => recollection_of_failure,
      recollection_of_no_failure⟩
    rw [← (run_recalls front).lookup, ← getElem?_run empty front query behind, ← hhistory]
  · intro step other entry entry' hstep hother hne
    rw [run_of_entry hstep, run_of_entry hother, run_of_entry hother, run_of_entry hstep]
    simp only [Zone.enter_comm store.zone hne]
  · intro queries later
    obtain ⟨hanswers, hzone⟩ := run_lookups store queries
    rw [run_append, hanswers, run_congr hzone]

/-- A record that is added after a failure does not bring the answer back, and a failure for another
type of the same name is another matter. -/
theorem run_answers_from_history_failed :
    let query : Query := ⟨"a.test", .caa⟩
    let front : List Step := [.addCaa ⟨"a.test", 0, "issue", "ca.test"⟩,
      .fail query (.unresolved "SERVFAIL"), .lookup ⟨"a.test", .other "NS" 2⟩,
      .fail query (.unresolved "REFUSED"), .addCaa ⟨"a.test", 0, "issue", "ca.test"⟩,
      .fail ⟨"a.test", .other "SOA" 6⟩ (.unresolved "timed out")]
    (empty.run (front ++ [.lookup query])).1[1]? = some (.error (.unresolved "REFUSED")) ∧
      (empty.run (front ++ [.lookup query])).2.queried .caa = ["a.test"] := by
  intro query front
  obtain ⟨-, hanswers, -, -, hlog⟩ := run_answers_from_history (front ++ [.lookup query])
  obtain ⟨answer, hanswer, hfailed, -⟩ := hanswers front query [] rfl
  have hlast : (front.filterMap (Step.failure? query)).getLast? = some (.unresolved "REFUSED") := by
    decide
  refine ⟨?_, (hlog .caa).trans (by decide)⟩
  rw [← hfailed _ hlast]
  exact hanswer

end Store

end IssuanceCheck.Dns
