import SipContainer.Proofs.Dispatch.Handover
/-!
What a proxy tells of the requests that go through its final branch. A request is noted when it sets
out, before its application has taken it. So the mark for an ACK tells of the last request that has set
out. It tells of the last one that the branch has got as well, as long as the application takes every
request and they set out one at a time, but not when the application fails over a request: then that
request is marked although it went nowhere.
-/

namespace SipContainer

def Proxy.Tells (proxy : Proxy) (requests : List Request) : Prop :=
  proxy.ackReceived = true ↔ ∃ request, requests.getLast? = some request ∧ request.isAck = true

def Proxy.marks (proxy : Proxy) : Bool × Option Request :=
  (proxy.ackReceived, proxy.lastRequest)

/-- What is marked when this is the last request that has set out, if any has. -/
def marksOf (last : Option Request) : Bool × Option Request :=
  (last.any Request.isAck, last)

theorem marks_modify (proxies : List Proxy) (number place : Nat) (change : Proxy → Proxy) :
    ((proxies.modify number change)[place]?).map Proxy.marks =
      if number = place then (proxies[place]?).map fun proxy => (change proxy).marks
      else (proxies[place]?).map Proxy.marks := by
  rw [List.getElem?_modify]
  by_cases here : number = place
  · simp [here, Function.comp_def]
  · simp [here]

def Unmarking (change : List Proxy → List Proxy) : Prop :=
  ∀ (proxies : List Proxy) (place : Nat),
    ((change proxies)[place]?).map Proxy.marks = (proxies[place]?).map Proxy.marks

theorem unmarking_id : Unmarking id := fun _ _ => rfl

theorem unmarking_setAwaits (number branch : Nat) (awaits : Bool) :
    Unmarking (·.modify number (·.setAwaits branch awaits)) := by
  intro proxies place
  exact (marks_modify proxies number place _).trans (ite_self _)

namespace Task

theorem fail_proxies (number : Nat) (task : Task) (fault : DispatchError) :
    (task.fail number fault).proxies = id := by
  unfold fail
  split <;> rfl

theorem giveUp_proxies (number : Nat) (task : Task) (fault : DispatchError) :
    (task.giveUp number fault).proxies = id := by
  unfold giveUp
  split
  · rfl
  · rfl
  · exact task.fail_proxies number fault

theorem cancel_proxies (number : Nat) (task : Task) : (task.cancel number).proxies = id := by
  unfold cancel
  split <;> rfl

end Task

namespace Container

variable {container before after : Container} {number place : Nat} {task : Task} {step : Step}
  {outcome : Outcome} {effects : List Effect}

def marks? (container : Container) (place : Nat) : Option (Bool × Option Request) :=
  (container.proxies[place]?).map Proxy.marks

theorem unmarking_served (container : Container) (number : Nat) (task : Task) (plan : Plan)
    (conduct : Conduct) : Unmarking (container.served number task plan conduct).proxies := by
  rcases container.served_cases number task plan conduct with ⟨leg, same⟩ | ⟨fault, same⟩
  · rw [same]
    exact unmarking_id
  · rw [same, task.exit_proxies]
    exact unmarking_id

theorem unmarking_forwarded (container : Container) (number : Nat) (task : Task) (leg : Leg)
    (conduct : Conduct) : Unmarking (container.forwarded number task leg conduct).proxies := by
  unfold forwarded
  split
  · rw [task.exit_proxies]
    exact unmarking_id
  · cases leg with
    | final => exact unmarking_id
    | fanOut proxy branch others => exact unmarking_setAwaits proxy branch false

theorem unmarking_of_outcome? (about : step.task? = some number)
    (possible : container.outcome? number task step = some outcome)
    (other : step ≠ .start number) : Unmarking outcome.proxies := by
  cases transition_of_outcome? about possible with
  | lineUp | enter | run | respond => exact unmarking_id
  | giveUp =>
      rw [task.giveUp_proxies]
      exact unmarking_id
  | cancel =>
      rw [task.cancel_proxies]
      exact unmarking_id
  | queue | serve | lose => exact absurd rfl other
  | forward conduct _ _ returned | exit conduct _ _ returned =>
      rcases outcome?_of_handBack returned possible with ⟨plan, _, _, same⟩ | ⟨leg, _, _, same⟩
      · rw [← same]
        exact container.unmarking_served number task plan conduct
      · rw [← same]
        exact container.unmarking_forwarded number task leg conduct

theorem marks_start (container : Container) (number place : Nat) (task : Task) :
    (((container.start number task).proxies container.proxies)[place]?).map Proxy.marks =
      if (container.start number task).stage.bound? = some place then
        (container.marks? place).map fun _ => marksOf (some task.request)
      else container.marks? place := by
  rcases container.start_cases number task with ⟨pool, same⟩ | ⟨pool, same⟩
  · rw [same]
    rfl
  · rw [same]
    dsimp only
    rcases container.setOut_cases_of_final number task with
      ⟨stays, still, _⟩ | ⟨other, now, branch, _, _, goes, _, notes⟩
    · rw [stays, still]
      rfl
    · rw [goes, notes, marks_modify]
      by_cases here : other = place
      · subst here
        rw [if_pos rfl, if_pos rfl, marks?, Option.map_map]
        rfl
      · rw [if_neg here, if_neg fun same => here (Option.some.inj same), marks?]

section

variable {moment : Moment}
  (possible : moment.before.step? moment.step = some (moment.after, moment.effects))

include possible

theorem proxies_of_taskless (taskless : moment.step.task? = none) :
    moment.after.proxies = moment.before.proxies := by
  have happening := happening_of_step? possible
  generalize moment.step = step, moment.after = after, moment.effects = effects at happening taskless
  cases happening with
  | task _ transition => cases transition.about.symm.trans taskless
  | accept => exact moment.before.accept_proxies _ _ _
  | answer | relay | hold | release => rfl

theorem marks?_of_moment (place : Nat) :
    moment.after.marks? place =
      match moment.departure? place with
      | some request => (moment.before.marks? place).map fun _ => marksOf (some request)
      | none => moment.before.marks? place := by
  by_cases starts : ∃ number, moment.step = .start number
  · obtain ⟨number, starts⟩ := starts
    obtain ⟨task, outcome, found, able, settled, _⟩ :=
      outcome?_of_moment possible (congrArg Step.task? starts)
    rw [departure?_of_start starts found settled, settled]
    rw [starts] at able
    obtain rfl := start_of_outcome? able
    refine (moment.before.marks_start number place task).trans ?_
    split <;> rfl
  · have resting := not_exists.mp starts
    rw [departure?_of_other resting]
    cases about : moment.step.task? with
    | none => rw [marks?, proxies_of_taskless possible about, marks?]
    | some number =>
        obtain ⟨task, outcome, found, able, settled, _⟩ := outcome?_of_moment possible about
        rw [settled]
        exact unmarking_of_outcome? about able (resting number) moment.before.proxies place

end

theorem marked_of_moment (moment : Moment) {last : Option Request}
    (possible : moment.before.step? moment.step = some (moment.after, moment.effects))
    (marked : moment.before.marks? place = some (marksOf last)) :
    moment.after.marks? place = some (marksOf ((moment.departure? place).or last)) := by
  rw [marks?_of_moment possible place, marked]
  cases moment.departure? place with
  | none => rfl
  | some request => rfl

/-! ### Runs -/

structure Respectful (place : Nat) (before after : Container) : Prop
    extends Interlude before after where
  marks : after.marks? place = before.marks? place

/-- A proxy that has nothing marked yet, while nothing is on its way to its final branch. -/
structure Fresh (container : Container) (place : Nat) : Prop where
  unmarked : container.marks? place = some (false, none)
  clear : container.bound place = []

end Container

namespace Run

variable {place : Nat} {start finish : Container} {history : List Moment}

/-- Whatever else happens, the last request that has set out is the one that is marked. -/
theorem marks? {last : Option Request}
    (run : Run (Container.Respectful place) start history finish)
    (marked : start.marks? place = some (marksOf last)) :
    finish.marks? place = some (marksOf ((departures place history).getLast?.or last)) := by
  induction run generalizing last with
  | rest => exact marked
  | @step before next finish step effects later possible _ ih =>
      have onward := Container.marked_of_moment { before, step, effects, after := next } possible
        marked
      rw [departures, last_filterMap_cons]
      exact ih onward
  | pause others _ ih => exact ih (others.marks.trans marked)

end Run

/-- What a proxy tells after a run, and of which requests. -/
structure Acknowledged (place : Nat) (history : List Moment) (finish : Container) (proxy : Proxy) :
    Prop where
  found : finish.proxies[place]? = some proxy
  tells : proxy.Tells (departures place history)
  last : proxy.lastRequest = (departures place history).getLast?
  departed : ∀ moment ∈ history, ∀ request, moment.departure? place = some request ↔
    ∃ number task now branch, moment.step = .start number ∧ moment.effects = [.served number] ∧
      moment.before.tasks[number]? = some task ∧
      moment.before.proxyOf? task.dialogSession = some (place, now) ∧ now.final = some branch ∧
      task.request = request
  delivered : ∀ moment ∈ history, ∀ request, moment.delivery? place = some request ↔
    ∃ number task, moment.step = .serve number .success ∧
      moment.before.tasks[number]? = some task ∧ task.stage.bound? = some place ∧
      task.request = request
  /-- While the application takes every request, and they set out one at a time, the mark tells of the
  last one that the branch has got, whatever the branch makes of it. -/
  documented : (∀ moment ∈ history, moment.Smooth place) → finish.bound place = [] →
    proxy.Tells (deliveries place history)

theorem Proxy.tells_of_marks {proxy : Proxy} {requests : List Request}
    (marked : proxy.marks = marksOf requests.getLast?) : proxy.Tells requests := by
  have received : proxy.ackReceived = requests.getLast?.any Request.isAck :=
    congrArg Prod.fst marked
  rw [Tells, received, Option.any_eq_true]

/-- In every run in which others leave the marks of a fresh proxy alone, its mark tells of the last
request that has set out for its final branch. -/
theorem Run.acknowledged {place : Nat} {start finish : Container} {history : List Moment}
    (run : Run (Container.Respectful place) start history finish) (fresh : start.Fresh place) :
    ∃ proxy, Acknowledged place history finish proxy := by
  have marked : finish.marks? place = some (marksOf ((departures place history).getLast?.or none)) :=
    run.marks? fresh.unmarked
  rw [Option.or_none] at marked
  obtain ⟨proxy, found, marks⟩ := Option.map_eq_some_iff.mp marked
  refine ⟨proxy, {
    found
    tells := Proxy.tells_of_marks marks
    last := congrArg Prod.snd marks
    departed := fun moment taken request =>
      Container.departure?_eq_some_iff (run.possible_at taken)
    delivered := fun moment taken request =>
      Container.delivery?_eq_some_iff (run.possible_at taken)
    documented := ?_ }⟩
  intro smooth rests
  have level : finish.Level place ((departures place history).getLast?.or none)
      ((deliveries place history).getLast?.or none) :=
    (run.weaken Container.Respectful.toInterlude).level smooth
      (.arrived (fun _ => List.eq_nil_iff_forall_not_mem.mp fresh.clear _) rfl)
  rw [Option.or_none, Option.or_none] at level
  cases level with
  | arrived clear same => exact Proxy.tells_of_marks (same ▸ marks)
  | underway present goes =>
      have member := Container.mem_bound_iff.mpr ⟨_, present, goes⟩
      exact absurd member (List.eq_nil_iff_forall_not_mem.mp rests _)

namespace Sample

def settled : Container :=
  let base := container .session
  { base with
    store :=
      { base.store with
        dialogs := base.store.dialogs.modify 0 (fun session => { session with proxy := some 0 }) }
    proxies := [{ branches := [{ target := uri }], order := [0], final := some 0 }] }

/-- The branch does not pass the first request on, and gets the next one all the same. -/
def accepted : List Step :=
  [.call (request .info 5), .enter 0, .start 0, .serve 0 .success,
    .forward 0 (.failure { message := "unreachable" }), .respond 0 .success, .call (request .ack 5),
    .enter 1, .start 1, .serve 1 .success, .forward 1 .success]

def rejected : List Step :=
  [.call (request .ack 5), .enter 0, .start 0, .serve 0 (.failure { message := "busy" }),
    .respond 0 .success]

end Sample

theorem Run.acknowledged_accepted :
    let start := Sample.settled
    let later := start.follow Sample.accepted
    Run (Container.Respectful 0) start later.1 later.2 ∧ start.Fresh 0 ∧
      (∀ moment ∈ later.1, moment.Smooth 0) ∧ later.2.bound 0 = [] ∧
      ∃ proxy, Acknowledged 0 later.1 later.2 proxy ∧
        departures 0 later.1 = [Sample.request .info 5, Sample.request .ack 5] ∧
        deliveries 0 later.1 = [Sample.request .info 5, Sample.request .ack 5] ∧
        proxy.ackReceived = true := by
  intro start later
  have run : Run (Container.Respectful 0) start later.1 later.2 := Run.follow _ _ Sample.accepted
  have fresh : start.Fresh 0 := ⟨rfl, rfl⟩
  have smooth : ∀ moment ∈ later.1, moment.Smooth 0 := by decide +kernel
  have rests : later.2.bound 0 = [] := by decide +kernel
  have out : departures 0 later.1 = [Sample.request .info 5, Sample.request .ack 5] := by
    decide +kernel
  have got : deliveries 0 later.1 = [Sample.request .info 5, Sample.request .ack 5] := by
    decide +kernel
  obtain ⟨proxy, acknowledged⟩ := Run.acknowledged run fresh
  refine ⟨run, fresh, smooth, rests, proxy, acknowledged, out, got, ?_⟩
  apply (acknowledged.documented smooth rests).mpr
  rw [got]
  exact ⟨_, rfl, rfl⟩

/-- An ACK over which the application fails is marked, although the branch has got nothing at all. -/
theorem Sample.ack_undelivered :
    let later := settled.follow rejected
    Run (Container.Respectful 0) settled later.1 later.2 ∧ settled.Fresh 0 ∧
      deliveries 0 later.1 = [] ∧
      ∃ proxy, later.2.proxies[0]? = some proxy ∧ proxy.ackReceived = true ∧
        ¬ proxy.Tells (deliveries 0 later.1) := by
  intro later
  have nothing : deliveries 0 later.1 = [] := by decide +kernel
  refine ⟨Run.follow _ _ rejected, ⟨rfl, rfl⟩, nothing, _, rfl, rfl, ?_⟩
  intro tells
  obtain ⟨request, last, _⟩ := tells.mp rfl
  rw [nothing] at last
  cases last

end SipContainer
