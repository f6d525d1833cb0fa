import MessageRelay.Proofs.Dispatch.Lifetimes

/-!
What a requester is answered. The first reply that the handler of a request gives, or else what it
ends with, is sent once, and never anything else under the key of this request, provided that no
sender uses an id twice. The requests of other handlers do not matter, however they interleave.
-/
namespace MessageRelay

def FailureCause.isTimeout : FailureCause → Bool
  | .call error => error.isTimeout
  | .text _ => false

/-- An error with all that it was caused by, the outermost first. -/
def HandlerError.chain (e : HandlerError) : List FailureCause := e.contexts.map .text ++ [e.cause]

theorem HandlerError.chain_any_isTimeout (e : HandlerError) :
    e.chain.any FailureCause.isTimeout = e.cause.isTimeout := by
  simp [chain, List.any_map, FailureCause.isTimeout, Function.comp_def]

theorem HandlerError.kind_eq (e : HandlerError) : e.kind =
    if e.chain.any FailureCause.isTimeout then .timeout else .handlerFailure := by
  rw [chain_any_isTimeout, kind]
  split
  · rename_i timedOut
    rw [timedOut]
    rfl
  · rename_i other
    rw [if_neg]
    intro timedOut
    unfold FailureCause.isTimeout at timedOut
    split at timedOut
    · rename_i error cause
      cases error with
      | timeout id detail => exact other id detail cause
      | _ => cases timedOut
    · cases timedOut

/-- The answer due to the request with this id, if one is: the first that the handler gave before it
ended, and else what it ended with. -/
def Outcome.due? (id : CorrelationId) (o : Outcome) : List Reply → Option Message
  | r :: _ => some (.reply id r.typeName r.payload)
  | [] =>
    match o with
    | .reply r => some (.reply id r.typeName r.payload)
    | .silent => none
    | .failed e =>
      let kind := if e.chain.any FailureCause.isTimeout then .timeout else .handlerFailure
      some (.errorReply id ⟨kind, e.message⟩)
    | .broken said? =>
      let said := said?.getD "non-string panic payload"
      some (.errorReply id ⟨.handlerFailure, s!"handler panicked: {said}"⟩)

namespace Outcome

variable {id : CorrelationId} {o : Outcome}

theorem due?_nil (id : CorrelationId) (o : Outcome) : o.due? id [] = o.message? id := by
  cases o with
  | failed e =>
    simp only [due?, ← e.kind_eq]
    rfl
  | _ => rfl

end Outcome

/-- What is said of a reply that was handed to the network. -/
def verdict : Option TransportError → Except CallError Bool
  | none => .ok true
  | some e => .error (.transport e)

theorem Site.told_eq_verdict {η β : Type} (recipient : PeerName) (s : Site η β) :
    s.told true recipient = verdict (s.network.refusal? recipient) := by
  unfold told verdict
  cases s.network.refusal? recipient <;> rfl

namespace DispatchMachine

variable {η β : Type} {m n : DispatchMachine η β} {a : HolderAct β} {as : List (HolderAct β)}
  {number other : Nat} {v w : Invocation} {key : RequestKey} {o : Outcome} {r : Reply}
  {said : Except CallError Bool}

/-- All replies to this request that were handed to the network. -/
def attempts (key : RequestKey) (m : DispatchMachine η β) : List Sending :=
  m.sends.filter fun x => key.answeredBy x.1

/-- The handler of this number was started for the request with this key. -/
def Serves (m : DispatchMachine η β) (number : Nat) (key : RequestKey) : Prop :=
  (m.started[number]?.bind Invocation.key?) = some key

instance (m : DispatchMachine η β) (number : Nat) (key : RequestKey) :
    Decidable (m.Serves number key) := inferInstanceAs (Decidable (_ = _))

theorem serves_of_running (runs : m.running? number = some v) (named : v.key? = some key) :
    m.Serves number key := Option.bind_eq_some_iff.mpr ⟨v, (running?_eq_some.mp runs).2, named⟩

def arrival? (m : DispatchMachine η β) (a : HolderAct β) : Option RequestKey :=
  match m.answer a with
  | .routed _ => m.about? a.toMove
  | _ => none

def arrivals : DispatchMachine η β → List (HolderAct β) → List RequestKey
  | _, [] => []
  | m, a :: as => (m.arrival? a).toList ++ (m.act a).arrivals as

/-- The reply that this handler gives through its context, and what it is told. The context may be
in the hands of others, and outlive the handler. -/
def givenReply? (number : Nat) (m : DispatchMachine η β) (a : HolderAct β) :
    Option (Reply × Except CallError Bool) :=
  match a.toMove, m.answer a with
  | .reply other r, .replied said => if other = number then some (r, said) else none
  | .sendReply recipient id r, .replied said =>
    if m.Serves number ⟨id, recipient⟩ then some (r, said) else none
  | _, _ => none

def givenReplies (number : Nat) :
    DispatchMachine η β → List (HolderAct β) → List (Reply × Except CallError Bool)
  | _, [] => []
  | m, a :: as => (m.givenReply? number a).toList ++ (m.act a).givenReplies number as

theorem arrivals_concat : m.arrivals (as ++ [a]) = m.arrivals as ++ ((m.acts as).arrival? a).toList := by
  induction as generalizing m with
  | nil => exact List.append_nil _
  | cons b as ih => exact (congrArg _ ih).trans (List.append_assoc _ _ _).symm

theorem givenReplies_concat : m.givenReplies number (as ++ [a]) =
    m.givenReplies number as ++ ((m.acts as).givenReply? number a).toList := by
  induction as generalizing m with
  | nil => exact List.append_nil _
  | cons b as ih => exact (congrArg _ ih).trans (List.append_assoc _ _ _).symm

theorem attempts_of_sends {sent : List Sending} (sends : n.sends = m.sends ++ sent) :
    n.attempts key = m.attempts key ++ sent.filter fun x => key.answeredBy x.1 := by
  rw [attempts, sends, List.filter_append]
  rfl

theorem attempts_of_same (sends : n.sends = m.sends) : n.attempts key = m.attempts key := by
  rw [attempts, sends]
  rfl

theorem Traffic.attempts_foreign {move : DispatchMove β} {answer : DispatchAnswer η}
    (traffic : m.Traffic move answer n) (other : m.about? move ≠ some key) :
    n.attempts key = m.attempts key := by
  obtain ⟨sent, sends, foreign⟩ := traffic.sends_foreign other
  have none : (sent.filter fun x => key.answeredBy x.1) = [] :=
    List.filter_eq_nil_iff.mpr fun x member => by simp [foreign x member]
  rw [attempts_of_sends sends, none, List.append_nil]

theorem act_started (m : DispatchMachine η β) (a : HolderAct β) :
    (m.act a).started = m.started ∨ ∃ v, (m.act a).started = m.started.push v ∧
      m.arrival? a = v.key? ∧ (∀ key, v.key? = some key → key ∈ (m.act a).inFlight) ∧
        (m.act a).sends = m.sends := by
  have traffic := act_traffic m a
  unfold arrival?
  generalize m.answer a = said at traffic ⊢
  generalize m.act a = n at traffic ⊢
  generalize a.toMove = move at traffic ⊢
  cases traffic with
  | asked _ started | unhandled _ _ _ started | answered _ _ _ _ started
  | concluded _ _ _ started => exact .inl started
  | dispatched kind origin named _ inFlight sends started =>
    refine .inr ⟨_, started, ?_, fun key own => ?_, sends⟩
    · rw [← origin, Invocation.key?, named]
      exact about?_inbound kind
    · rw [inFlight, own]
      exact List.mem_append_left _ List.mem_cons_self

theorem started_act (found : m.started[number]? = some v) :
    (m.act a).started[number]? = some v := by
  rcases act_started m a with same | ⟨w, push, -⟩
  · rw [same, found]
  · have below := (Array.getElem?_eq_some_iff.mp found).1
    rw [push, Array.getElem?_push, if_neg (Nat.ne_of_lt below), found]

theorem Serves.act (serves : m.Serves number key) (a : HolderAct β) :
    (m.act a).Serves number key := by
  obtain ⟨v, found, named⟩ := Option.bind_eq_some_iff.mp serves
  exact Option.bind_eq_some_iff.mpr ⟨v, started_act found, named⟩

theorem serves_act (serves : (m.act a).Serves number key) :
    m.Serves number key ∨ number = m.started.size ∧ m.arrival? a = some key ∧
      key ∈ (m.act a).inFlight ∧ (m.act a).sends = m.sends := by
  rcases act_started m a with same | ⟨v, push, arrives, opens, sends⟩
  · rw [Serves, same] at serves
    exact .inl serves
  · rw [Serves, push, Array.getElem?_push] at serves
    split at serves
    · rename_i last
      exact .inr ⟨last, arrives.trans serves, opens key serves, sends⟩
    · exact .inl serves

namespace Blank

variable {start : DispatchMachine η β}

theorem arrived_of_serves (blank : start.Blank) (serves : (start.acts as).Serves number key) :
    key ∈ start.arrivals as := by
  induction as using List.reverseRecOn with
  | nil =>
    rw [Serves, show (start.acts []).started = #[] from blank.started] at serves
    cases serves
  | append_singleton as a ih =>
    rw [arrivals_concat, List.mem_append, Option.mem_toList]
    rw [acts_concat] at serves
    exact (serves_act serves).imp ih (·.2.1)

theorem serves_unique (blank : start.Blank) (once : (start.arrivals as).Nodup)
    (serves : (start.acts as).Serves number key) (serves' : (start.acts as).Serves other key) :
    other = number := by
  induction as using List.reverseRecOn with
  | nil =>
    rw [Serves, show (start.acts []).started = #[] from blank.started] at serves
    cases serves
  | append_singleton as a ih =>
    rw [arrivals_concat, List.nodup_append] at once
    obtain ⟨once, -, apart⟩ := once
    have twice {i : Nat} (old : (start.acts as).Serves i key)
        (arrives : (start.acts as).arrival? a = some key) : False :=
      apart key (blank.arrived_of_serves old) key (Option.mem_toList.mpr arrives) rfl
    rw [acts_concat] at serves serves'
    rcases serves_act serves with old | new <;> rcases serves_act serves' with old' | new'
    · exact ih once old old'
    · exact (twice old new'.2.1).elim
    · exact (twice old' new.2.1).elim
    · exact new'.1.trans new.1.symm

theorem attempts_of_not_arrived (blank : start.Blank) (not : key ∉ start.arrivals as) :
    (start.acts as).attempts key = [] := by
  induction as using List.reverseRecOn with
  | nil =>
    rw [attempts, show (start.acts []).sends = [] from blank.sends]
    rfl
  | append_singleton as a ih =>
    rw [arrivals_concat, List.mem_append, not_or, Option.mem_toList] at not
    obtain ⟨before, now⟩ := not
    have unserved (number : Nat) : ¬ (start.acts as).Serves number key :=
      fun serves => before (blank.arrived_of_serves serves)
    rw [acts_concat]
    refine Eq.trans ?_ (ih before)
    have traffic := act_traffic (start.acts as) a
    by_cases other : (start.acts as).about? a.toMove ≠ some key
    · exact traffic.attempts_foreign other
    · have about := not_not.mp other
      unfold arrival? at now
      generalize (start.acts as).answer a = said at traffic now
      generalize (start.acts as).act a = n at traffic ⊢
      generalize a.toMove = move at traffic now about
      cases traffic with
      | asked asks =>
        obtain ⟨-, asked, kind, sends⟩ := asks
        have none : (asked.filter fun x => key.answeredBy x.1) = [] :=
          List.filter_eq_nil_iff.mpr fun x member => by simp [RequestKey.answeredBy, kind x member]
        rw [attempts_of_sends sends, none, List.append_nil]
      | unhandled | dispatched => exact absurd about now
      | answered own open' =>
        cases own.symm.trans about
        obtain ⟨number, -, opened⟩ := (blank.coherent.acts as).opened key open'
        exact (unserved number (Option.bind_eq_some_iff.mpr opened.started)).elim
      | concluded runs =>
        rw [about?_conclude runs] at about
        exact (unserved _ (serves_of_running runs about)).elim

end Blank

theorem withSite_sendReply (key : RequestKey) (r : Reply) (m : DispatchMachine η β) :
    let x := m.withSite (·.sendReply key.sender key.id r) .replied
    (key ∈ m.inFlight ∧ x.1 = .replied (m.site.told true key.sender) ∧
      x.2.inFlight = m.inFlight.erase key ∧
        x.2.sends = m.sends ++ [m.site.sending key.sender (.reply key.id r.typeName r.payload)]) ∨
    (key ∉ m.inFlight ∧ x = (.replied (.ok false), m)) := by
  by_cases open' : key ∈ m.inFlight
  · obtain ⟨told, inFlight, sends⟩ :=
      Site.answer_of_inFlight (.reply key.id r.typeName r.payload) open'
    exact .inl ⟨open', congrArg DispatchAnswer.replied told, inFlight, sends⟩
  · refine .inr ⟨open', ?_⟩
    simp only [withSite, Site.sendReply, Site.answer_of_not_inFlight _ open']

theorem key_of_serves (serves : m.Serves number key) (runs : m.running? number = some v) :
    v.key? = some key := by
  rw [Serves, (running?_eq_some.mp runs).2] at serves
  exact serves

theorem Concludes.request (ends : m.Concludes a number o) (h : m.Coherent)
    (serves : m.Serves number key) : key ∉ (m.act a).inFlight ∧
      (m.act a).attempts key = m.attempts key ++
        if key ∈ m.inFlight then (o.message? key.id).toList.map (m.site.sending key.sender ·)
        else [] := by
  obtain ⟨v, runs, acted⟩ := act_concludes ends
  have named := key_of_serves serves runs
  have sends : (m.act a).sends = m.sends ++ m.site.conclusion v o := by
    rw [acted]
    exact Site.sends_conclude m.now v o m.site
  have own : (m.site.conclusion v o).filter (fun x => key.answeredBy x.1) = m.site.conclusion v o :=
    List.filter_eq_self.mpr fun x sent => by
      rw [Site.answeredBy_conclusion sent, named, decide_eq_true rfl]
  refine ⟨?_, ?_⟩
  · rw [acted]
    have past : key ∉ m.site.remaining v := not_mem_remaining h.nodup named
    rwa [← Site.inFlight_conclude m.now v o] at past
  · rw [attempts_of_sends sends, own, Site.conclusion, named]
    rfl

theorem running_of_replied (makes : a.move? = some (.reply number r))
    (replied : m.answer a = .replied said) : ∃ v, m.running? number = some v := by
  rcases act_of_move (m := m) makes (by simp) (by simp) with ⟨refused, -⟩ | ⟨answered, -⟩
  · rw [replied] at refused
    cases refused
  · rw [replied] at answered
    simp only [operate] at answered
    cases runs : m.running? number with
    | none =>
      simp only [runs] at answered
      cases answered
    | some v => exact ⟨v, rfl⟩

theorem givenReply?_eq_some {x : Reply × Except CallError Bool}
    (given : m.givenReply? number a = some x) : m.answer a = .replied x.2 ∧
      ((a.toMove = .reply number x.1 ∧ ∃ v, m.running? number = some v) ∨
        ∃ key, a.toMove = .sendReply key.sender key.id x.1 ∧ m.Serves number key) := by
  unfold givenReply? at given
  split at given
  · rename_i made replied
    split at given
    · rename_i own
      cases own
      cases given
      exact ⟨replied, .inl ⟨made,
        running_of_replied (HolderAct.move?_of_toMove made (by simp)) replied⟩⟩
    · cases given
  · rename_i recipient id r said made replied
    split at given
    · rename_i serves
      cases given
      exact ⟨replied, .inr ⟨⟨id, recipient⟩, made, serves⟩⟩
    · cases given
  · cases given

theorem about_of_givenReply {x : Reply × Except CallError Bool} (serves : m.Serves number key)
    (given : m.givenReply? number a = some x) : m.about? a.toMove = some key := by
  obtain ⟨-, ⟨made, v, runs⟩ | ⟨own, made, served⟩⟩ := givenReply?_eq_some given
  · rw [made]
    exact (congrArg (·.bind Invocation.key?) runs).trans (key_of_serves serves runs)
  · rw [made]
    exact served.symm.trans serves

theorem started_of_givenReply {x : Reply × Except CallError Bool}
    (given : m.givenReply? number a = some x) : number < m.started.size := by
  have found : ∃ v, m.started[number]? = some v := by
    obtain ⟨-, ⟨-, v, runs⟩ | ⟨own, -, served⟩⟩ := givenReply?_eq_some given
    · exact ⟨v, (running?_eq_some.mp runs).2⟩
    · exact (Option.bind_eq_some_iff.mp served).imp fun v found => found.1
  obtain ⟨v, found⟩ := found
  exact (Array.getElem?_eq_some_iff.mp found).1

theorem givenReplies_of_not_started {start : DispatchMachine η β}
    (later : (start.acts as).started.size ≤ number) : start.givenReplies number as = [] := by
  induction as using List.reverseRecOn with
  | nil => rfl
  | append_singleton as a ih =>
    rw [acts_concat] at later
    have before := Nat.le_trans (act_traffic (start.acts as) a).size_le later
    rw [givenReplies_concat, ih before, List.nil_append, Option.toList_eq_nil_iff]
    refine Option.eq_none_iff_forall_ne_some.mpr fun x given => ?_
    exact absurd (started_of_givenReply given) (Nat.not_lt.mpr before)

/-- What an act does to the request of a handler. -/
inductive Chapter (number : Nat) (key : RequestKey) (m : DispatchMachine η β) (a : HolderAct β) :
    Prop
  | arrives (again : m.arrival? a = some key)
  | passes (inFlight : key ∈ (m.act a).inFlight ↔ key ∈ m.inFlight)
    (attempts : (m.act a).attempts key = m.attempts key) (silent : m.givenReply? number a = none)
  | answers {r : Reply} (open' : key ∈ m.inFlight) (past : key ∉ (m.act a).inFlight)
    (attempts : (m.act a).attempts key =
      m.attempts key ++ [m.site.sending key.sender (.reply key.id r.typeName r.payload)])
    (given : m.givenReply? number a = some (r, m.site.told true key.sender))
  | late {r : Reply} (past : key ∉ m.inFlight) (same : m.act a = m)
    (given : m.givenReply? number a = some (r, .ok false))
  | ends {o : Outcome} (ends : m.Concludes a number o) (past : key ∉ (m.act a).inFlight)
    (attempts : (m.act a).attempts key = m.attempts key ++
      if key ∈ m.inFlight then (o.message? key.id).toList.map (m.site.sending key.sender ·) else [])
    (silent : m.givenReply? number a = none)

theorem chapter_of_not_about (h : m.Coherent) (serves : m.Serves number key)
    (other : m.about? a.toMove ≠ some key) : Chapter number key m a := by
  have traffic := act_traffic m a
  refine .passes (traffic.foreign h other).1 (traffic.attempts_foreign other) ?_
  cases given : m.givenReply? number a with
  | none => rfl
  | some x => exact absurd (about_of_givenReply serves given) other

theorem givenReply?_of_not_replied (other : ∀ said, m.answer a ≠ .replied said) :
    m.givenReply? number a = none := by
  unfold givenReply?
  split
  · rename_i said
    exact absurd said (other _)
  · rename_i said
    exact absurd said (other _)
  · rfl

theorem chapter_of_refused (refused : m.answer a = .refused) (same : m.act a = m) :
    Chapter number key m a :=
  .passes (by rw [same]) (by rw [same]) (givenReply?_of_not_replied (by simp [refused]))

theorem chapter_of_answer (key : RequestKey) (r : Reply) (h : m.Coherent)
    (answered : m.answer a = (m.withSite (·.sendReply key.sender key.id r) .replied).1 ∧
      m.act a = (m.withSite (·.sendReply key.sender key.id r) .replied).2)
    (given : ∀ said, m.answer a = .replied said → m.givenReply? number a = some (r, said)) :
    Chapter number key m a := by
  obtain ⟨said, acted⟩ := answered
  rcases withSite_sendReply key r m with ⟨open', told, inFlight, sends⟩ | ⟨past, same⟩
  · rw [← said] at told
    rw [← acted] at inFlight sends
    refine .answers open' (inFlight ▸ h.nodup.not_mem_erase) ?_ (given _ told)
    rw [attempts_of_sends sends, List.filter_singleton, answeredBy_reply, decide_eq_true rfl]
    rfl
  · rw [same] at said acted
    exact .late past acted (given _ said)

theorem Coherent.chapter (h : m.Coherent) (serves : m.Serves number key)
    (only : ∀ other, m.Serves other key → other = number) (a : HolderAct β) :
    Chapter number key m a := by
  by_cases other : m.about? a.toMove ≠ some key
  · exact chapter_of_not_about h serves other
  have about := not_not.mp other
  cases made : a.toMove with
  | inbound sender message =>
    rcases act_of_move (m := m) (HolderAct.move?_of_toMove made (by simp)) (by simp) (by simp) with
      ⟨refused, same⟩ | ⟨routed, -⟩
    · exact chapter_of_refused refused same
    · refine .arrives ?_
      rw [arrival?, routed]
      exact about
  | reply replier r =>
    rw [made] at about
    obtain ⟨v, runs, named⟩ := Option.bind_eq_some_iff.mp about
    have own : replier = number := only replier (serves_of_running runs named)
    subst own
    rcases act_of_move (m := m) (HolderAct.move?_of_toMove made (by simp)) (by simp) (by simp) with
      ⟨refused, same⟩ | answered
    · exact chapter_of_refused refused same
    · obtain ⟨id, identified, rfl⟩ := Option.map_eq_some_iff.mp named
      simp only [operate, runs, Site.replyEarly, identified] at answered
      refine chapter_of_answer ⟨id, v.sender⟩ r h answered fun said replied => ?_
      simp only [givenReply?, made, replied, if_true]
  | sendReply recipient id r =>
    rw [made] at about
    cases about
    rcases act_of_move (m := m) (HolderAct.move?_of_toMove made (by simp)) (by simp) (by simp) with
      ⟨refused, same⟩ | answered
    · exact chapter_of_refused refused same
    · refine chapter_of_answer ⟨id, recipient⟩ r h answered fun said replied => ?_
      simp only [givenReply?, made, replied, if_pos serves]
  | conclude ender o =>
    rw [made] at about
    obtain ⟨v, runs, named⟩ := Option.bind_eq_some_iff.mp about
    have own : ender = number := only ender (serves_of_running runs named)
    subst own
    have makes := HolderAct.move?_of_toMove made (by simp)
    rcases act_of_move (m := m) makes (by simp) (by simp) with ⟨refused, same⟩ | ⟨said, -⟩
    · exact chapter_of_refused refused same
    · simp only [operate, runs] at said
      have ends : m.Concludes a ender o := ⟨makes, said⟩
      obtain ⟨past, attempts⟩ := ends.request h serves
      exact .ends ends past attempts (givenReply?_of_not_replied (by simp [said]))
  | _ =>
    rw [made] at about
    cases about

/-- What was sent for a request while its handler runs, and what the replies were told that it gave. -/
inductive Progress (name : PeerName) (key : RequestKey) (m : DispatchMachine η β) :
    List (Reply × Except CallError Bool) → Prop
  | unanswered (open' : key ∈ m.inFlight) (attempts : m.attempts key = []) : Progress name key m []
  | answered {r : Reply} {refused? : Option TransportError}
    {late : List (Reply × Except CallError Bool)} (past : key ∉ m.inFlight)
    (attempts : m.attempts key =
      [(.of name key.sender (.reply key.id r.typeName r.payload), refused?)])
    (unsent : ∀ x ∈ late, x.2 = .ok false) :
    Progress name key m ((r, verdict refused?) :: late)

namespace Blank

variable {start : DispatchMachine η β}

theorem name_acts (start : DispatchMachine η β) (as : List (HolderAct β)) :
    (start.acts as).site.dispatcher.name = start.site.dispatcher.name :=
  congrArg Prod.fst (made_acts start as)

theorem progress (blank : start.Blank) (once : (start.arrivals as).Nodup)
    (serves : (start.acts as).Serves number key) (runs : number ∈ (start.acts as).running) :
    Progress start.site.dispatcher.name key (start.acts as) (start.givenReplies number as) := by
  induction as using List.reverseRecOn with
  | nil =>
    rw [Serves, show (start.acts []).started = #[] from blank.started] at serves
    cases serves
  | append_singleton as a ih =>
    have all := once
    rw [arrivals_concat, List.nodup_append] at once
    obtain ⟨once, -, apart⟩ := once
    rw [acts_concat] at serves runs ⊢
    rw [givenReplies_concat]
    rcases serves_act serves with old | ⟨rfl, arrives, open', sends⟩
    · obtain ⟨nodup, -⟩ := blank.running_acts as
      obtain ⟨going, unended⟩ := (mem_running_act nodup).mp runs
      obtain ⟨v, found, -⟩ := Option.bind_eq_some_iff.mp old
      have below := (Array.getElem?_eq_some_iff.mp found).1
      have before := going.resolve_right fun between => Nat.not_le.mpr below between.1
      have ih := ih once old before
      generalize start.givenReplies number as = given at ih ⊢
      cases (blank.coherent.acts as).chapter old (fun _ => blank.serves_unique once old) a with
      | arrives again =>
        exact (apart key (blank.arrived_of_serves old) key (Option.mem_toList.mpr again) rfl).elim
      | passes inFlight attempts silent =>
        rw [silent, Option.toList_none, List.append_nil]
        cases ih with
        | unanswered open' none => exact .unanswered (inFlight.mpr open') (attempts.trans none)
        | answered past one unsent =>
          exact .answered (fun open' => past (inFlight.mp open')) (attempts.trans one) unsent
      | answers open' past attempts given =>
        cases ih with
        | answered closed => exact absurd open' closed
        | unanswered _ none =>
          rw [given, Site.told_eq_verdict]
          refine .answered past (attempts.trans ?_) nofun
          rw [none, Site.sending, name_acts]
          rfl
      | late past same given =>
        cases ih with
        | unanswered open' => exact absurd open' past
        | answered _ one unsent =>
          rw [same, given]
          refine .answered past one fun x member => ?_
          rcases List.mem_append.mp member with before | now
          · exact unsent x before
          · rw [List.mem_singleton.mp now]
      | ends ends => exact (unended ⟨_, ends⟩).elim
    · have not : key ∉ start.arrivals as := fun before =>
        apart key before key (Option.mem_toList.mpr arrives) rfl
      have silent : (start.acts as).givenReply? (start.acts as).started.size a = none :=
        Option.eq_none_iff_forall_ne_some.mpr fun x given =>
          absurd (started_of_givenReply given) (Nat.lt_irrefl _)
      rw [givenReplies_of_not_started (Nat.le_refl _), silent]
      exact .unanswered open' ((attempts_of_same sends).trans (blank.attempts_of_not_arrived not))

end Blank

theorem Progress.conclude {name : PeerName} {given : List (Reply × Except CallError Bool)}
    (progress : Progress name key m given) (own : m.site.dispatcher.name = name) (o : Outcome) :
    ∃ refused?, (m.attempts key ++ if key ∈ m.inFlight then
        (o.message? key.id).toList.map (m.site.sending key.sender ·) else []) =
        (o.due? key.id (given.map Prod.fst)).toList.map (fun message =>
          (.of name key.sender message, refused?)) ∧
      ∀ first rest, given = first :: rest →
        first.2 = verdict refused? ∧ ∀ x ∈ rest, x.2 = .ok false := by
  cases progress with
  | unanswered open' none =>
    refine ⟨m.site.network.refusal? key.sender, ?_, nofun⟩
    rw [none, if_pos open', List.map_nil, Outcome.due?_nil, List.nil_append, ← own]
    rfl
  | @answered r refused? late past one unsent =>
    refine ⟨refused?, ?_, fun first rest given => ?_⟩
    · rw [one, if_neg past]
      rfl
    · cases given
      exact ⟨rfl, unsent⟩

def Answers (number : Nat) (a : HolderAct β) : Prop :=
  (∃ r, a.move? = some (.reply number r)) ∨ ∃ o, a.move? = some (.conclude number o)

def unanswered : HandlerError := ⟨["asking"], .call (.timeout default "late")⟩

end DispatchMachine

end MessageRelay
