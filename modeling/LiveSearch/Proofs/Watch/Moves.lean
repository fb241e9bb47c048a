import LiveSearch.Proofs.Corpus.Grown
import LiveSearch.Proofs.Session.Acts

/-!
# A session that watches a corpus

A `Watch` is a corpus that is being changed together with a session that shows it and the work that
the session has begun. Everything happens in single **moves** (`Watch.step`), in any order: a change
takes its next atomic step, the session is asked for something, a piece of work reads the next thing
that it needs, a message is delivered, a batch of events is received.

Work is taken apart into its readings here. A query reads the index at one moment and then, if it
has to, looks its hits up one by one; a lookup reads one item at a time. The corpus may change
between any two of them. Work that is done at one moment is the special case in which it does not
(`Errand.finish_ofWork`), just as a change that is carried out without interruption is the case in
which nothing else moves (`Watch.run_writes`). Work may also break off, after any of its readings
(`Errand.breakOff?_proceedAll`).
-/

namespace LiveSearch

/-! ### Work, as far as it has come -/

/-- **Work that is under way**, as far as it has come. -/
inductive Errand where
  /-- A query has been issued and has read nothing yet. -/
  | asked (sequence : Nat) (conditions : List Condition) (matchAll verify : Bool)
  /-- The query has its hits; those of `rest` are still to be looked up. -/
  | answered (sequence : Nat) (kept rest : List RankedHit)
  /-- The query has failed. -/
  | failed (sequence : Nat) (e : Failure)
  /-- The items of `rest` are still to be looked up. -/
  | lookup (generation : Nat) (rest : List Reference) (found : List Item)
      (missing : List Reference)
  /-- A batch is planned, which takes no reading. -/
  | plan (generation : Nat) (batch : List Event) (members : List Reference)

namespace Errand

/-- The work at its beginning. The answer of a query is taken as read. -/
def ofWork : Work → Errand
  | .query sequence (.ok hits) true => .answered sequence [] hits
  | .query sequence (.ok hits) false => .answered sequence hits []
  | .query sequence (.error e) _ => .failed sequence e
  | .resolve generation refs => .lookup generation refs [] []
  | .plan generation batch members => .plan generation batch members

/-- **The work after its next reading.** -/
def proceed (sources : Sources) : Errand → Errand
  | .asked sequence conditions matchAll verify =>
    ofWork (.query sequence (sources.provider.execute conditions matchAll) verify)
  | .answered sequence kept (hit :: rest) =>
    .answered sequence (if sources.resolver.finds hit.ref then kept ++ [hit] else kept) rest
  | .lookup generation (ref :: rest) found missing =>
    match sources.resolver ref with
    | .ok item => .lookup generation rest (found ++ [item]) missing
    | .error e => .lookup generation rest found (if e.isNotFound then missing ++ [ref] else missing)
  | other => other

/-- The message of work that has nothing left to read. -/
def message? : Errand → Option Message
  | .asked .. => none
  | .answered sequence kept [] => some (.answered sequence (.ok kept))
  | .answered _ _ (_ :: _) => none
  | .failed sequence e => some (.answered sequence (.error e))
  | .lookup generation [] found missing => some (.resolved generation found missing)
  | .lookup _ (_ :: _) _ _ => none
  | .plan generation batch members =>
    some (.planned generation (.ok (Plan.ofEvents batch fun ref => ref ∈ members)))

/-- The number of the query that the work is for. -/
def sequence? : Errand → Option Nat
  | .asked sequence .. | .answered sequence .. | .failed sequence _ => some sequence
  | _ => none

/-- The message of work that breaks off. Of a lookup nothing is heard. -/
def breakOff? (reason : String) : Errand → Option Message
  | .asked sequence .. | .answered sequence .. | .failed sequence _ =>
    some (.answered sequence (.error (.runtime reason)))
  | .lookup .. => none
  | .plan generation batch _ => some (.planned generation (.error batch))

/-- **How work ends**: with this message, when it is done or when it breaks off. -/
inductive EndsWith : Errand → Message → Prop where
  /-- All hits of a query are looked up. -/
  | answer (sequence : Nat) (kept : List RankedHit) :
      EndsWith (.answered sequence kept []) (.answered sequence (.ok kept))
  /-- A query fails. -/
  | failure {e : Errand} {sequence : Nat} (failure : Failure) (hquery : e.sequence? = some sequence) :
      EndsWith e (.answered sequence (.error failure))
  /-- All items of a lookup are looked up. -/
  | lookup (generation : Nat) (found : List Item) (missing : List Reference) :
      EndsWith (.lookup generation [] found missing) (.resolved generation found missing)
  /-- A batch is planned. -/
  | plan (generation : Nat) (batch : List Event) (members : List Reference) :
      EndsWith (.plan generation batch members)
        (.planned generation (.ok (Plan.ofEvents batch fun ref => ref ∈ members)))
  /-- A batch comes back without a plan. -/
  | unplanned (generation : Nat) (batch : List Event) (members : List Reference) :
      EndsWith (.plan generation batch members) (.planned generation (.error batch))

theorem EndsWith.of_message? {e : Errand} {message : Message} (h : e.message? = some message) :
    e.EndsWith message := by
  cases e with
  | asked sequence conditions matchAll verify => cases h
  | answered sequence kept rest =>
    cases rest with
    | nil =>
      obtain rfl := Option.some.inj h
      exact .answer sequence kept
    | cons hit rest => cases h
  | failed sequence failure =>
    obtain rfl := Option.some.inj h
    exact .failure failure rfl
  | lookup generation rest found missing =>
    cases rest with
    | nil =>
      obtain rfl := Option.some.inj h
      exact .lookup generation found missing
    | cons ref rest => cases h
  | plan generation batch members =>
    obtain rfl := Option.some.inj h
    exact .plan generation batch members

theorem EndsWith.of_breakOff? {e : Errand} {reason : String} {message : Message}
    (h : e.breakOff? reason = some message) : e.EndsWith message := by
  cases e with
  | lookup generation rest found missing => cases h
  | plan generation batch members =>
    obtain rfl := Option.some.inj h
    exact .unplanned generation batch members
  | _ =>
    obtain rfl := Option.some.inj h
    exact .failure _ rfl

/-! #### Work that is done at one moment -/

/-- The work after some readings at one moment. -/
def proceedAll (sources : Sources) (readings : Nat) (e : Errand) : Errand :=
  (proceed sources)^[readings] e

theorem proceedAll_succ (sources : Sources) (n : Nat) (e : Errand) :
    proceedAll sources (n + 1) e = proceedAll sources n (e.proceed sources) := rfl

theorem proceedAll_answered (sources : Sources) (sequence : Nat) (kept rest : List RankedHit) :
    proceedAll sources rest.length (.answered sequence kept rest) =
      .answered sequence (kept ++ retainExisting rest sources.resolver) [] := by
  induction rest generalizing kept with
  | nil => rw [retainExisting, List.filter_nil, List.append_nil]; rfl
  | cons hit rest ih =>
    rw [List.length_cons, proceedAll_succ, proceed, ih, retainExisting, retainExisting,
      List.filter_cons]
    by_cases hfinds : sources.resolver.finds hit.ref
    · simp [hfinds]
    · simp [hfinds]

theorem proceedAll_lookup (sources : Sources) (generation : Nat) (rest : List Reference)
    (found : List Item) (missing : List Reference) :
    proceedAll sources rest.length (.lookup generation rest found missing) =
      .lookup generation [] (found ++ sources.resolver.found rest)
        (missing ++ sources.resolver.missing rest) := by
  induction rest generalizing found missing with
  | nil =>
    rw [Resolver.found, Resolver.missing, List.filterMap_nil, List.filter_nil, List.append_nil,
      List.append_nil]
    rfl
  | cons ref rest ih =>
    rw [List.length_cons, proceedAll_succ, proceed]
    cases hr : sources.resolver ref with
    | ok item =>
      simp only []
      rw [ih]
      simp [Resolver.found, Resolver.missing, Resolver.misses, hr, Except.toOption]
    | error e =>
      simp only []
      rw [ih]
      by_cases hmiss : e.isNotFound <;>
        simp [Resolver.found, Resolver.missing, Resolver.misses, hr, Except.toOption, hmiss]

/-- **Work that is done at one moment** ends with the message that the work finishes with. -/
theorem finish_ofWork (sources : Sources) (work : Work) :
    ∃ readings, ((ofWork work).proceedAll sources readings).message? =
      some (work.finish sources.resolver) := by
  cases work with
  | query sequence answer verify =>
    cases answer with
    | error e => exact ⟨0, rfl⟩
    | ok hits =>
      cases verify with
      | false => exact ⟨0, rfl⟩
      | true =>
        -- each hit takes one reading
        refine ⟨hits.length, ?_⟩
        rw [ofWork, proceedAll_answered]
        rfl
  | resolve generation refs =>
    refine ⟨refs.length, ?_⟩
    rw [ofWork, proceedAll_lookup]
    rfl
  | plan generation batch members => exact ⟨0, rfl⟩

/-- A reading does not change what is heard when the work breaks off. -/
theorem breakOff?_proceed (reason : String) (sources : Sources) (e : Errand) :
    (e.proceed sources).breakOff? reason = e.breakOff? reason := by
  cases e with
  | asked sequence conditions matchAll verify =>
    rw [proceed]
    cases sources.provider.execute conditions matchAll with
    | error e => rfl
    | ok hits => cases verify <;> rfl
  | answered sequence kept rest => cases rest <;> rfl
  | failed sequence e => rfl
  | lookup generation rest found missing =>
    cases rest with
    | nil => rfl
    | cons ref rest =>
      rw [proceed]
      split <;> rfl
  | plan generation batch members => rfl

/-- **Work that breaks off**, after however many readings, ends with the message that the work
breaks off with. -/
theorem breakOff?_proceedAll (reason : String) (sources : Sources) (readings : Nat) (work : Work) :
    ((ofWork work).proceedAll sources readings).breakOff? reason = work.breakOff? reason := by
  have hall : ∀ e : Errand,
      (e.proceedAll sources readings).breakOff? reason = e.breakOff? reason := by
    induction readings with
    | zero => exact fun e => rfl
    | succ n ih => exact fun e => (ih _).trans (breakOff?_proceed reason sources e)
  rw [hall]
  cases work with
  | query sequence answer verify =>
    cases answer with
    | error e => rfl
    | ok hits => cases verify <;> rfl
  | resolve generation refs => rfl
  | plan generation batch members => rfl

end Errand

/-! ### Moves -/

/-- **A session that watches a corpus.** -/
structure Watch where
  corpus : Corpus
  /-- The change that is under way. -/
  change : Change := .done (.ok 0)
  session : Session
  /-- The work that the session has begun. -/
  errands : List Errand := []

/-- What can happen. -/
inductive Move where
  /-- A change begins, unless one is still under way. -/
  | edit (e : Edit)
  /-- The change takes its next step. -/
  | write
  /-- A query is issued. -/
  | issue (conditions : List Condition) (matchAll : Bool)
  /-- The session is cleared. -/
  | clear
  /-- The session is closed. -/
  | close
  /-- Another order is chosen. -/
  | setOrder (order : SortOrder)
  /-- The hits are sorted. -/
  | resort
  /-- The hits of a range are shown with their items. -/
  | materialize (start stop : Nat)
  /-- A piece of work reads the next thing that it needs. -/
  | proceed (position : Nat)
  /-- A piece of work is done, and its message is delivered. -/
  | deliver (position : Nat)
  /-- A piece of work breaks off, and its message is delivered, if it has one. -/
  | breakOff (position : Nat) (reason : String)
  /-- The oldest batch that is queued for the session is received. -/
  | receive

namespace Watch

/-- A session is opened on a corpus. -/
def opening (c : Corpus) (settings : Settings) : Watch :=
  { corpus := { c with bus := (c.bus.subscribe .news).1 }
    session := .fresh settings (c.bus.subscribe .news).2 }

/-- The watch after the session has reacted to something. -/
def react (w : Watch) (reaction : Reaction) : Watch :=
  { w with
    session := reaction.session
    errands := w.errands ++ reaction.work.map Errand.ofWork }

/-- The watch with another bus. -/
def withBus (w : Watch) (bus : Bus) : Watch :=
  { w with corpus := { w.corpus with bus } }

/-- The watch without one of its pieces of work. -/
def without (w : Watch) (position : Nat) : Watch :=
  { w with errands := w.errands.eraseIdx position }

/-- The watch after a piece of work has ended with a message. -/
def ending (w : Watch) (position : Nat) (message : Message) : Watch :=
  (w.without position).react (w.session.handleMessage w.corpus.sources.resolver message)

/-- The batch that the session would receive next, with the bus afterwards. -/
def next? (w : Watch) : Option (List Event × Bus) := do
  let listener ← w.session.listener
  let (bus, received) := w.corpus.bus.receive listener.subscription
  return (← received, bus)

/-- **The watch after a move.** What cannot be done changes nothing. -/
def step (w : Watch) : Move → Watch
  | .edit e =>
    match w.change with
    | .done _ => { w with change := e.change }
    | _ => w
  | .write =>
    let (corpus, change) := w.change.step w.corpus
    { w with corpus, change }
  | .issue conditions matchAll =>
    match w.session.issue conditions with
    | .ok running =>
      { w with
        session := running
        errands := w.errands ++
          [.asked running.sequence conditions matchAll running.settings.verifyExistence] }
    | .error _ => w
  | .clear => { w with session := w.session.clear }
  | .close =>
    match w.session.listener with
    | some listener =>
      { w.withBus (w.corpus.bus.unsubscribe listener.subscription) with
        session := w.session.close }
    | none => { w with session := w.session.close }
  | .setOrder order => { w with session := w.session.setOrder order }
  | .resort => { w with session := w.session.resort }
  | .materialize start stop =>
    match w.session.materialize w.corpus.sources.resolver start stop with
    | .ok (session, _) => { w with session }
    | .error _ => w
  | .proceed position =>
    { w with errands := w.errands.modify position (Errand.proceed w.corpus.sources) }
  | .deliver position =>
    match w.errands[position]?.bind Errand.message? with
    | some message => w.ending position message
    | none => w
  | .breakOff position reason =>
    match w.errands[position]?.bind (Errand.breakOff? reason) with
    | some message => w.ending position message
    | none => w.without position
  | .receive =>
    match w.next? with
    | some (batch, bus) => (w.withBus bus).react (w.session.handleBatch batch)
    | none => w

/-- The watch after some moves. -/
def run (w : Watch) (moves : List Move) : Watch :=
  moves.foldl step w

/-- **The watches that can occur**: a session is opened on a corpus that has grown, and from then on
anything may happen. -/
def Occurs (w : Watch) : Prop :=
  ∃ corpus settings moves, Corpus.Grown corpus ∧ w = (opening corpus settings).run moves

theorem run_nil (w : Watch) : w.run [] = w := rfl

theorem run_cons (w : Watch) (m : Move) (moves : List Move) :
    w.run (m :: moves) = (w.step m).run moves := rfl

theorem run_append (w : Watch) (xs ys : List Move) : w.run (xs ++ ys) = (w.run xs).run ys :=
  List.foldl_append

theorem run_snoc (w : Watch) (moves : List Move) (m : Move) :
    w.run (moves ++ [m]) = (w.run moves).step m := by
  rw [run_append]
  rfl

theorem Occurs.run {w : Watch} (h : w.Occurs) (moves : List Move) : (w.run moves).Occurs := by
  obtain ⟨corpus, settings, before, hgrown, rfl⟩ := h
  exact ⟨corpus, settings, before ++ moves, hgrown, (run_append _ _ _).symm⟩

/-- What delivering comes to: nothing is there to be delivered, or some work ends. -/
theorem step_deliver (w : Watch) (position : Nat) :
    w.step (.deliver position) = w ∨
      ∃ e message, w.errands[position]? = some e ∧ e.EndsWith message ∧
        w.step (.deliver position) = w.ending position message := by
  rw [step]
  cases hmessage : w.errands[position]?.bind Errand.message? with
  | none => exact Or.inl rfl
  | some message =>
    obtain ⟨e, he, hready⟩ := Option.bind_eq_some_iff.mp hmessage
    exact Or.inr ⟨e, message, he, .of_message? hready, rfl⟩

/-- What breaking off comes to: nothing is heard of the work, or it ends. -/
theorem step_breakOff (w : Watch) (position : Nat) (reason : String) :
    (w.step (.breakOff position reason) = w.without position ∧
        ∀ e, w.errands[position]? = some e → e.breakOff? reason = none) ∨
      ∃ e message, w.errands[position]? = some e ∧ e.EndsWith message ∧
        w.step (.breakOff position reason) = w.ending position message := by
  rw [step]
  cases hmessage : w.errands[position]?.bind (Errand.breakOff? reason) with
  | none => exact Or.inl ⟨rfl, Option.bind_eq_none_iff.mp hmessage⟩
  | some message =>
    obtain ⟨e, he, hbroken⟩ := Option.bind_eq_some_iff.mp hmessage
    exact Or.inr ⟨e, message, he, .of_breakOff? hbroken, rfl⟩

/-- **A change that nothing interrupts** is carried out as a whole. -/
theorem run_writes (w : Watch) (n : Nat) :
    w.run (List.replicate n .write) =
      { w with
        corpus := (Corpus.advance n w.corpus w.change).1
        change := (Corpus.advance n w.corpus w.change).2 } := by
  induction n generalizing w with
  | zero => rfl
  | succ n ih =>
    rw [List.replicate_succ, run_cons, ih]
    rfl

end Watch

end LiveSearch
