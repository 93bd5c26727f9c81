import Mathlib.Algebra.Order.BigOperators.Group.Finset
import Walkoff.Analysis.Requests
import Walkoff.Analysis.Samples
import Walkoff.Library.Sharing
import Walkoff.Library.Transition
import Walkoff.Program.WorkerFleet

/-!
# The delivery of requests

The deque hands the requests out in the order in which they have been pushed, each to one worker,
and a worker calls `execute` with them in the order in which it has got them. Only a signal or a
kill makes a worker give up what it has not begun. No more calls are in progress on all threads of
all workers than there have been requests for them.
-/

set_option autoImplicit false

namespace Walkoff.Analysis

open Walkoff.Model Walkoff.Program
open Walkoff.Library (Except.bind_eq_ok OrderedDict Run eq_of_sum_countP_le_one follow share
  share_append share_of_ne sum_countP_share)

variable {σ W : Type}

/-! ## The deque -/

/-- What an item is received as, if it can be read. -/
def receivedOf : QueueItem → Option ReceivedRequest
  | .request message => (receiveWorkflow message).toOption
  | .foreign _ => none

/-- What an operation pushes. -/
def pushedBy : FleetOp σ W → List QueueItem
  | .addWorkflowToQueue execution => execution.items
  | .spoil raises => [.foreign raises]
  | .rpop _ => []
  | .worker _ _ => []

/-- What is pushed comes to the front of the deque, the last first. -/
theorem queue_push (items : List QueueItem) (fleet : Fleet σ W) :
    (fleet.push items).queue = items.reverse ++ fleet.queue := by
  simp [Fleet.push, RequestQueue.lpush]

/-- What is popped has been at the right end. -/
theorem reverse_eq_rpop (queue : RequestQueue) :
    queue.reverse = (RequestQueue.rpop queue).1.toList ++ (RequestQueue.rpop queue).2.reverse := by
  unfold RequestQueue.rpop
  induction queue using List.reverseRecOn with
  | nil => rfl
  | append_singleton queue item => simp

/-! ## One worker -/

/-- All that a worker has received, in order. -/
def accounted (worker : Worker σ) : List ReceivedRequest :=
  worker.begun ++ worker.waiting ++ worker.main.held ++ worker.dropped

/-- The request that a received one stands for, if its ids can be read. -/
def requestOf (received : ReceivedRequest) : Option Request :=
  (requestOfReceived received).toOption

/-- A worker gives nothing up before it is stopped, and its calls in progress are on its own threads
and for requests that it has begun. -/
structure SoundWorker (worker : Worker σ) : Prop where
  undropped : worker.main ≠ .stopped → worker.dropped = []
  threads : ∀ thread ∈ OrderedDict.keys worker.pool.inProgress, thread ∈ worker.threads
  nodup : (OrderedDict.keys worker.pool.inProgress).Nodup
  requests : (worker.pool.inProgress.map fun item => item.2.request).Subperm
    (worker.begun.filterMap requestOf)
  contexts : ∀ item ∈ worker.pool.inProgress, item.2.ctx.executionId = item.2.request.executionId

/-- A worker that starts has given nothing up. -/
theorem soundWorker_start (threads : List String) : SoundWorker (Worker.start threads : Worker σ) :=
  { undropped := fun _ => rfl
    threads := fun _ h => (List.not_mem_nil h).elim
    nodup := List.nodup_nil
    requests := .refl []
    contexts := fun _ h => (List.not_mem_nil h).elim }

/-- A worker whose main thread alone has done something. -/
theorem SoundWorker.of_main {worker worker' : Worker σ} (h : SoundWorker worker)
    (hthreads : worker'.threads = worker.threads) (hpool : worker'.pool = worker.pool)
    (hbegun : worker'.begun = worker.begun)
    (hundropped : worker'.main ≠ .stopped → worker'.dropped = []) : SoundWorker worker' where
  undropped := hundropped
  threads := by
    rw [hpool, hthreads]
    exact h.threads
  nodup := hpool ▸ h.nodup
  requests := by
    rw [hpool, hbegun]
    exact h.requests
  contexts := hpool ▸ h.contexts

/-- A worker that receives takes what can be read of what has been popped. -/
theorem receive_accounted {worker : Worker σ} (h : SoundWorker worker)
    (hmain : worker.main = .receiving) (popped : Option QueueItem) :
    SoundWorker (worker.receive popped) ∧
      accounted (worker.receive popped) = accounted worker ++ (popped.bind receivedOf).toList := by
  have hdropped : worker.dropped = [] := h.undropped (by simp [hmain])
  have hsound : ∀ main : MainThread, SoundWorker { worker with main } := fun main =>
    h.of_main rfl rfl rfl fun _ => hdropped
  cases popped with
  | none => exact ⟨hsound _, by simp [Worker.receive, accounted, hmain, MainThread.held]⟩
  | some item =>
    cases item with
    | foreign raises =>
      cases raises with
      | true =>
        exact ⟨hsound _, by simp [Worker.receive, accounted, hmain, MainThread.held, receivedOf]⟩
      | false => exact ⟨h, by simp [Worker.receive, accounted, receivedOf]⟩
    | request message =>
      cases hreceived : receiveWorkflow message with
      | ok received =>
        simp only [Worker.receive, hreceived]
        exact ⟨hsound _, by simp [accounted, hmain, MainThread.held, receivedOf, hreceived,
          hdropped, Except.toOption]⟩
      | error e =>
        simp only [Worker.receive, hreceived]
        exact ⟨hsound _, by simp [accounted, hmain, MainThread.held, receivedOf, hreceived,
          Except.toOption]⟩

/-- The context of a call is one of the execution that is requested. -/
theorem prepare_executionId {env : Env σ} {request : Request} {w w₁ : World σ} {ctx : Context}
    (h : prepare env request w = .ok (some ctx) w₁) : ctx.executionId = request.executionId := by
  by_cases hstartable : Startable request w
  · obtain ⟨workflow, user, w₂, -, hmade⟩ := prepare_of_startable env hstartable
    rw [hmade] at h
    cases h
    rfl
  · exact absurd h (prepare_of_not_startable hstartable ctx w₁)

/-- A call is made for the request that has been received. -/
theorem call_request {setting : CallSetting σ} {received : ReceivedRequest}
    {call : Call σ} (h : setting.call received = some call) :
    requestOf received = some call.request ∧ call.ctx.executionId = call.request.executionId := by
  unfold CallSetting.call at h
  unfold requestOf
  cases hrequest : requestOfReceived received with
  | error e => simp [hrequest] at h
  | ok request =>
    simp only [hrequest] at h
    split at h
    · rename_i ctx world hprepare
      obtain rfl := Option.some.inj h
      exact ⟨rfl, prepare_executionId hprepare⟩
    · cases h

/-- A thread that takes something up takes what has been submitted first. -/
theorem begin_accounted {worker worker' : Worker σ} (h : SoundWorker worker) {thread : String}
    {setting : CallSetting σ} (hbegin : worker.begin thread setting = some worker') :
    SoundWorker worker' ∧ accounted worker' = accounted worker := by
  unfold Worker.begin at hbegin
  cases hwaiting : worker.waiting with
  | nil => simp [hwaiting] at hbegin
  | cons received waiting =>
    simp only [hwaiting] at hbegin
    split_ifs at hbegin with hidle
    have hmoved : worker.begun ++ [received] ++ waiting = worker.begun ++ worker.waiting := by
      rw [hwaiting, List.append_assoc, List.singleton_append]
    cases hcall : setting.call received with
    | none =>
      simp only [hcall, Option.some.injEq] at hbegin
      subst hbegin
      refine ⟨{ h with requests := ?_ }, by simp only [accounted, hmoved]⟩
      rw [List.filterMap_append]
      exact h.requests.trans (List.sublist_append_left _ _).subperm
    | some call =>
      obtain ⟨hrequest, hcontext⟩ := call_request hcall
      have hstep : worker.pool.step (.begin thread call) = some
          { executingWorkflows :=
              OrderedDict.set thread call.ctx.executionId worker.pool.executingWorkflows
            inProgress := OrderedDict.set thread call worker.pool.inProgress } := if_neg hidle.2
      simp only [hcall, hstep, Option.map_some, Option.some.injEq] at hbegin
      subst hbegin
      have hset := OrderedDict.set_of_not_mem hidle.2 call
      refine ⟨⟨h.undropped, ?_, ?_, ?_, ?_⟩, by simp only [accounted, hmoved]⟩
      · intro other hother
        rcases (OrderedDict.mem_keys_set _ _ _ _).mp hother with rfl | hkept
        · exact hidle.1
        · exact h.threads other hkept
      · exact OrderedDict.nodup_keys_set h.nodup call
      · simp only [hset, List.map_append, List.map_cons, List.map_nil, List.filterMap_append,
          List.filterMap_cons, hrequest, List.filterMap_nil]
        exact h.requests.append (.refl _)
      · intro item hitem
        rcases OrderedDict.mem_set hitem with rfl | hkept
        · exact hcontext
        · exact h.contexts item hkept

/-- A call that ends is in progress no more. -/
theorem finish_accounted {worker worker' : Worker σ} (h : SoundWorker worker) {thread : String}
    (hfinish : worker.finish thread = some worker') :
    SoundWorker worker' ∧ accounted worker' = accounted worker := by
  obtain ⟨pool, hstep, rfl⟩ := Option.map_eq_some_iff.mp hfinish
  have hpop : pool.inProgress = OrderedDict.pop thread worker.pool.inProgress := by
    simp only [Pool.step] at hstep
    split at hstep
    · cases hstep
    · split at hstep
      · cases hstep
      · obtain rfl := Option.some.inj hstep
        rfl
      · obtain rfl := Option.some.inj hstep
        rfl
  have hsublist : pool.inProgress.Sublist worker.pool.inProgress := by
    rw [hpop]
    exact List.filter_sublist
  refine ⟨⟨h.undropped, ?_, ?_, ?_, ?_⟩, rfl⟩
  · intro other hother
    exact h.threads other ((hsublist.map Prod.fst).subset hother)
  · exact (hsublist.map Prod.fst).nodup h.nodup
  · exact (hsublist.map _).subperm.trans h.requests
  · intro item hitem
    exact h.contexts item (hsublist.subset hitem)

/-- **What a worker does on its own neither loses nor repeats a request.** -/
theorem next_accounted {worker worker' : Worker σ} (h : SoundWorker worker) {op : WorkerOp σ}
    (hnext : worker.next op = some worker') :
    SoundWorker worker' ∧ accounted worker' = accounted worker := by
  cases op with
  | poll =>
    have hpoll : worker.poll = some worker' := hnext
    unfold Worker.poll at hpoll
    split at hpoll
    · rename_i hmain
      split_ifs at hpoll
      · obtain rfl := Option.some.inj hpoll
        exact ⟨h, rfl⟩
      · obtain rfl := Option.some.inj hpoll
        refine ⟨h.of_main rfl rfl rfl fun _ => h.undropped (by simp [hmain]), ?_⟩
        simp [accounted, hmain, MainThread.held]
    · cases hpoll
  | submit =>
    have hsubmit : worker.submit = some worker' := hnext
    unfold Worker.submit at hsubmit
    split at hsubmit
    · rename_i received hmain
      obtain rfl := Option.some.inj hsubmit
      refine ⟨h.of_main rfl rfl rfl fun _ => h.undropped (by simp [hmain]), ?_⟩
      simp [accounted, hmain, MainThread.held]
    · cases hsubmit
  | exitHandler =>
    obtain rfl := Option.some.inj hnext
    refine ⟨h.of_main rfl rfl rfl fun hrunning => absurd rfl hrunning, ?_⟩
    simp [accounted, Worker.exitHandler, MainThread.held]
  | kill =>
    obtain rfl := Option.some.inj hnext
    refine ⟨⟨fun hrunning => absurd rfl hrunning, ?_, List.nodup_nil, List.nil_subperm, ?_⟩, ?_⟩
    · exact fun _ hthread => (List.not_mem_nil hthread).elim
    · exact fun _ hitem => (List.not_mem_nil hitem).elim
    · simp [accounted, Worker.kill, MainThread.held]
  | begin thread setting => exact begin_accounted h hnext
  | finish thread => exact finish_accounted h hnext

/-! ## All workers -/

section

variable [DecidableEq W]

/-- What has been pushed has been popped, in this order, or is still in the deque; and what has been
popped by a worker is accounted for there. -/
structure Served (ops : List (FleetOp σ W)) (fleet : Fleet σ W) : Prop where
  queue : ops.flatMap pushedBy = fleet.taken.map Prod.snd ++ fleet.queue.reverse
  sound : ∀ w, SoundWorker (fleet.workers w)
  shares : ∀ w, (share w fleet.taken).filterMap receivedOf = accounted (fleet.workers w)

/-- At the start nothing has been pushed. -/
theorem served_start (threads : W → List String) : Served [] (Fleet.start threads : Fleet σ W) :=
  { queue := rfl
    sound := fun w => soundWorker_start (threads w)
    shares := fun _ => rfl }

variable {ops : List (FleetOp σ W)} {fleet fleet' : Fleet σ W}

/-- A push keeps what is served. -/
theorem Served.push (h : Served ops fleet) {op : FleetOp σ W} :
    Served (ops ++ [op]) (fleet.push (pushedBy op)) where
  queue := by
    rw [List.flatMap_append, h.queue, queue_push, List.reverse_append, List.reverse_reverse]
    simp [Fleet.push]
  sound := h.sound
  shares := h.shares

/-- What popping does. -/
theorem rpop_eq {w : W} (h : fleet.rpop w = some fleet') :
    (fleet.workers w).main = .receiving ∧ fleet' =
      { queue := (RequestQueue.rpop fleet.queue).2
        workers := Function.update fleet.workers w
          ((fleet.workers w).receive (RequestQueue.rpop fleet.queue).1)
        taken := fleet.taken ++
          (RequestQueue.rpop fleet.queue).1.toList.map fun item => (w, item) } := by
  unfold Fleet.rpop at h
  split at h
  · rename_i hmain
    exact ⟨hmain, (Option.some.inj h).symm⟩
  · cases h

/-- What has been popped, in the shares of the workers. -/
theorem share_popped (v w : W) (popped : Option QueueItem) :
    (share v (popped.toList.map fun item => (w, item))).filterMap receivedOf =
      if v = w then (popped.bind receivedOf).toList else [] := by
  cases popped with
  | none => simp
  | some item =>
    by_cases hv : v = w
    · subst hv
      cases hitem : receivedOf item <;> simp [hitem]
    · simp [share_of_ne (Ne.symm hv), hv]

/-- A worker pops. -/
theorem Served.rpop (h : Served ops fleet) {w : W} (hnext : fleet.rpop w = some fleet') :
    Served (ops ++ [.rpop w]) fleet' := by
  obtain ⟨hmain, rfl⟩ := rpop_eq hnext
  have hreverse := reverse_eq_rpop fleet.queue
  generalize RequestQueue.rpop fleet.queue = deque at hreverse
  obtain ⟨popped, queue⟩ := deque
  obtain ⟨hsound, haccounted⟩ := receive_accounted (h.sound w) hmain popped
  refine ⟨?_, ?_, ?_⟩
  · have hpopped : (popped.toList.map fun item => (w, item)).map Prod.snd = popped.toList := by
      simp
    rw [List.flatMap_append, h.queue, hreverse, List.map_append, hpopped, List.append_assoc]
    simp [pushedBy]
  · intro v
    by_cases hv : v = w
    · subst hv
      simpa using hsound
    · simpa [Function.update_of_ne hv] using h.sound v
  · intro v
    rw [share_append, List.filterMap_append, h.shares v, share_popped]
    by_cases hv : v = w
    · subst hv
      simpa using haccounted.symm
    · simp [hv]

/-- A worker does something on its own. -/
theorem Served.worker (h : Served ops fleet) {w : W} {op : WorkerOp σ} {worker : Worker σ}
    (hnext : (fleet.workers w).next op = some worker) :
    Served (ops ++ [.worker w op])
      { fleet with workers := Function.update fleet.workers w worker } := by
  obtain ⟨hsound, haccounted⟩ := next_accounted (h.sound w) hnext
  refine ⟨?_, ?_, ?_⟩
  · simpa [pushedBy] using h.queue
  · intro v
    by_cases hv : v = w
    · subst hv
      simpa using hsound
    · simpa [Function.update_of_ne hv] using h.sound v
  · intro v
    rw [h.shares v]
    by_cases hv : v = w
    · subst hv
      simpa using haccounted.symm
    · simp [Function.update_of_ne hv]

/-- An operation keeps what is served. -/
theorem Served.next (h : Served ops fleet) {op : FleetOp σ W}
    (hnext : fleet.next op = some fleet') : Served (ops ++ [op]) fleet' := by
  cases op with
  | addWorkflowToQueue execution =>
    obtain rfl := Option.some.inj hnext
    exact h.push
  | spoil raises =>
    obtain rfl := Option.some.inj hnext
    exact h.push
  | rpop w => exact h.rpop hnext
  | worker w op =>
    obtain ⟨worker, hworker, rfl⟩ := Option.map_eq_some_iff.mp hnext
    exact h.worker hworker

/-- Over a run, what is popped is accounted for. -/
theorem served_of_follow {threads : W → List String}
    (h : follow Fleet.next (Fleet.start threads) ops = some fleet) : Served ops fleet :=
  (Run.of_follow h).history (served_start threads) fun _ _ _ _ _ hserved hnext =>
    hserved.next hnext

/-- **No request is lost, repeated or overtaken**: whatever the workers do, the requests are popped
in the order in which they have been pushed, each by one worker; a worker calls `execute` with what
it has popped and can read, in this order, and gives up what is left only when it is stopped; and
its calls in progress are no more than its threads. -/
theorem requests_served {threads : W → List String}
    (h : follow Fleet.next (Fleet.start threads) ops = some fleet) :
    ops.flatMap pushedBy = fleet.taken.map Prod.snd ++ fleet.queue.reverse ∧
      ∀ w, (share w fleet.taken).filterMap receivedOf =
          (fleet.workers w).begun ++ (fleet.workers w).waiting ++ (fleet.workers w).main.held ++
            (fleet.workers w).dropped ∧
        ((fleet.workers w).main ≠ .stopped → (fleet.workers w).dropped = []) ∧
        (fleet.workers w).pool.inProgress.length ≤ (fleet.workers w).threads.length := by
  have hserved := served_of_follow h
  refine ⟨hserved.queue, fun w => ⟨hserved.shares w, (hserved.sound w).undropped, ?_⟩⟩
  have hkeys := (hserved.sound w).nodup.subperm (hserved.sound w).threads
  simpa [OrderedDict.keys] using hkeys.length_le

end

/-- The execution 7, put on the queue. -/
def sampleExecution : QueuedExecution :=
  { workflowId := 100, executionId := 7, start := none, startArguments := [], resume := false
    environmentVariables := [], user := none }

/-- What a thread finds: the execution is pending. -/
def pendingSetting : CallSetting Unit :=
  { env := succeeding, control := undisturbed, turns := 3
    world := pendingWorld (twoActions none none) }

/-- One of two workers takes up the execution. -/
def oneTakesUp : List (FleetOp Unit Bool) :=
  [.addWorkflowToQueue sampleExecution, .worker true .poll, .worker false .poll, .rpop true,
   .rpop false, .worker true .submit, .worker true (.begin "0" pendingSetting)]

/-- One worker takes up one request. -/
theorem requests_served_one :
    ∃ fleet, follow Fleet.next (Fleet.start fun _ => ["0"]) oneTakesUp = some fleet ∧
      oneTakesUp.flatMap pushedBy = fleet.taken.map Prod.snd ++ fleet.queue.reverse := by
  have hrun : (follow Fleet.next (Fleet.start fun _ => ["0"]) oneTakesUp).isSome = true := by
    decide +kernel
  obtain ⟨fleet, hfleet⟩ := Option.isSome_iff_exists.mp hrun
  exact ⟨fleet, hfleet, (requests_served hfleet).1⟩

/-! ## One call for each request -/

/-- The request that an item stands for, if it can be read. -/
def requestOfItem (item : QueueItem) : Option Request :=
  (receivedOf item).bind requestOf

/-- The execution that is put on the queue. -/
def queuedExecution : FleetOp σ W → Option UUID
  | .addWorkflowToQueue execution => some execution.executionId
  | .spoil _ => none
  | .rpop _ => none
  | .worker _ _ => none

/-- An option has the value of an outcome that succeeded. -/
theorem toOption_eq_some {ε α : Type} {result : Except ε α} {a : α}
    (h : result.toOption = some a) : result = .ok a := by
  cases result with
  | error e => cases h
  | ok b => exact congrArg Except.ok (Option.some.inj h)

/-- The id of the execution, from the controller to the queue, ... -/
theorem executionId_message {execution : QueuedExecution} {message : ExecuteWorkflowMessage}
    (h : execution.message = .ok message) :
    message.workflowExecutionId = execution.executionId.str := by
  unfold QueuedExecution.message createWorkflowRequestMessage at h
  obtain ⟨arguments, -, h⟩ := Except.bind_eq_ok.mp h
  obtain ⟨envVars, -, h⟩ := Except.bind_eq_ok.mp h
  exact (congrArg ExecuteWorkflowMessage.workflowExecutionId (Except.ok.inj h)).symm

/-- ... from the queue to the worker, ... -/
theorem executionId_receiveWorkflow {message : ExecuteWorkflowMessage}
    {received : ReceivedRequest} (h : receiveWorkflow message = .ok received) :
    received.workflowExecutionId = message.workflowExecutionId := by
  obtain ⟨arguments, -, h⟩ := Except.bind_eq_ok.mp h
  obtain ⟨envVars, -, h⟩ := Except.bind_eq_ok.mp h
  cases h
  rfl

/-- ... and from there to the database. -/
theorem executionId_requestOfReceived {received : ReceivedRequest} {request : Request}
    (h : requestOfReceived received = .ok request) :
    UUID.parse received.workflowExecutionId = some request.executionId := by
  unfold requestOfReceived at h
  split at h
  · rename_i hexecution
    rw [hexecution]
    split at h
    · cases h
      rfl
    · split at h
      · cases h
        rfl
      · cases h
  · cases h

/-- The request that a message stands for is for the execution that is put on the queue. -/
theorem requestOfItem_items {execution : QueuedExecution} {item : QueueItem} {request : Request}
    (hitem : item ∈ execution.items) (h : requestOfItem item = some request) :
    request.executionId = execution.executionId := by
  unfold QueuedExecution.items at hitem
  cases hmessage : execution.message with
  | error e => simp [hmessage] at hitem
  | ok message =>
    obtain rfl : item = .request message := by simpa [hmessage] using hitem
    obtain ⟨received, hreceived, hrequest⟩ := Option.bind_eq_some_iff.mp h
    have hparse := executionId_requestOfReceived (toOption_eq_some hrequest)
    rw [executionId_receiveWorkflow (toOption_eq_some hreceived), executionId_message hmessage,
      UUID.parse_str] at hparse
    exact (Option.some.inj hparse).symm

/-- The executions of the requests that can be read are among those put on the queue. -/
theorem executions_sublist (ops : List (FleetOp σ W)) :
    (((ops.flatMap pushedBy).filterMap requestOfItem).map fun request =>
      request.executionId).Sublist (ops.filterMap queuedExecution) := by
  induction ops with
  | nil => exact .refl []
  | cons op ops ih =>
    rw [List.flatMap_cons, List.filterMap_append, List.map_append]
    have hop : (((pushedBy op).filterMap requestOfItem).map fun request =>
        request.executionId).Sublist (queuedExecution op).toList := by
      cases op with
      | addWorkflowToQueue execution =>
        show ((execution.items.filterMap requestOfItem).map _).Sublist [execution.executionId]
        have hlength : execution.items.length ≤ 1 := by
          unfold QueuedExecution.items
          split <;> simp
        match hitems : execution.items, hlength with
        | [], _ => simp
        | [item], _ =>
          cases hrequest : requestOfItem item with
          | none => simp [hrequest]
          | some request =>
            have hid := requestOfItem_items (hitems ▸ List.mem_singleton_self item) hrequest
            simp [hrequest, hid]
      | spoil raises => exact List.nil_sublist _
      | rpop w => exact List.nil_sublist _
      | worker w op => exact List.nil_sublist _
    have hcons : (op :: ops).filterMap queuedExecution =
        (queuedExecution op).toList ++ ops.filterMap queuedExecution := by
      cases hqueued : queuedExecution op <;> simp [hqueued]
    rw [hcons]
    exact hop.append ih

/-- **No more calls are in progress than there have been requests for them.** -/
theorem calls_le_requests [DecidableEq W] [Fintype W] {threads : W → List String}
    {ops : List (FleetOp σ W)} {fleet : Fleet σ W}
    (h : follow Fleet.next (Fleet.start threads) ops = some fleet) (p : Request → Bool) :
    ∑ w, ((fleet.workers w).pool.inProgress.map fun item => item.2.request).countP p ≤
      ((ops.flatMap pushedBy).filterMap requestOfItem).countP p := by
  have hserved := served_of_follow h
  have hworker : ∀ w,
      ((fleet.workers w).pool.inProgress.map fun item => item.2.request).countP p ≤
        (share w fleet.taken).countP fun item => ((requestOfItem item).map p).getD false := by
    intro w
    have hbegun : ((fleet.workers w).begun.filterMap requestOf).Sublist
        (((share w fleet.taken).filterMap receivedOf).filterMap requestOf) := by
      rw [hserved.shares w]
      unfold accounted
      rw [List.append_assoc, List.append_assoc]
      exact (List.sublist_append_left _ _).filterMap requestOf
    calc ((fleet.workers w).pool.inProgress.map fun item => item.2.request).countP p
        ≤ ((fleet.workers w).begun.filterMap requestOf).countP p :=
          (hserved.sound w).requests.countP_le p
      _ ≤ (((share w fleet.taken).filterMap receivedOf).filterMap requestOf).countP p :=
          hbegun.countP_le
      _ = (share w fleet.taken).countP fun item => ((requestOfItem item).map p).getD false := by
          rw [List.filterMap_filterMap, List.countP_filterMap]
          rfl
  calc ∑ w, ((fleet.workers w).pool.inProgress.map fun item => item.2.request).countP p
      ≤ ∑ w, (share w fleet.taken).countP fun item => ((requestOfItem item).map p).getD false :=
        Finset.sum_le_sum fun w _ => hworker w
    _ = (fleet.taken.map Prod.snd).countP fun item => ((requestOfItem item).map p).getD false :=
        sum_countP_share _ _
    _ ≤ (ops.flatMap pushedBy).countP fun item => ((requestOfItem item).map p).getD false := by
        rw [hserved.queue, List.countP_append]
        exact Nat.le_add_right _ _
    _ = ((ops.flatMap pushedBy).filterMap requestOfItem).countP p := by
        rw [List.countP_filterMap]

/-- The calls in progress for an execution, against the requests that are queued for it. -/
theorem calls_le_queued [DecidableEq W] [Fintype W] {threads : W → List String}
    {ops : List (FleetOp σ W)} {fleet : Fleet σ W}
    (h : follow Fleet.next (Fleet.start threads) ops = some fleet) (executionId : UUID) :
    ∑ w, (fleet.workers w).pool.inProgress.countP
        (fun item => item.2.ctx.executionId = executionId) ≤
      (ops.filterMap queuedExecution).count executionId := by
  have hcalls : ∀ w, (fleet.workers w).pool.inProgress.countP
      (fun item => item.2.ctx.executionId = executionId) =
        ((fleet.workers w).pool.inProgress.map fun item => item.2.request).countP
          fun request => request.executionId = executionId := by
    intro w
    rw [List.countP_map]
    refine List.countP_congr fun item hitem => ?_
    simp [((served_of_follow h).sound w).contexts item hitem]
  have hrequests := calls_le_requests h fun request => request.executionId = executionId
  have hqueued := (executions_sublist ops).count_le executionId
  rw [List.count_eq_countP, List.countP_map] at hqueued
  simp only [hcalls]
  refine hrequests.trans (le_trans (le_of_eq ?_) hqueued)
  exact List.countP_congr fun request _ => by simp

/-- **One call for each request**: for no execution are there more calls in progress, over all
threads of all workers, than the controller has put requests for it on the queue; and if it never
puts two for one execution there, each execution is in progress on one thread at most. -/
theorem one_call_per_request [DecidableEq W] [Fintype W] {threads : W → List String}
    {ops : List (FleetOp σ W)} {fleet : Fleet σ W}
    (h : follow Fleet.next (Fleet.start threads) ops = some fleet) :
    (∀ executionId, ∑ w, (fleet.workers w).pool.inProgress.countP
        (fun item => item.2.ctx.executionId = executionId) ≤
      (ops.filterMap queuedExecution).count executionId) ∧
    ((ops.filterMap queuedExecution).Nodup → ∀ w w' thread thread' call call',
      (thread, call) ∈ (fleet.workers w).pool.inProgress →
      (thread', call') ∈ (fleet.workers w').pool.inProgress →
      call.ctx.executionId = call'.ctx.executionId → w = w' ∧ thread = thread') := by
  refine ⟨calls_le_queued h, ?_⟩
  intro hnodup w w' thread thread' call call' hcall hcall' hsame
  have hone : ∑ v, (fleet.workers v).pool.inProgress.countP
      (fun item => item.2.ctx.executionId = call.ctx.executionId) ≤ 1 :=
    (calls_le_queued h _).trans (List.nodup_iff_count_le_one.mp hnodup _)
  obtain ⟨hworker, hitem⟩ := eq_of_sum_countP_le_one hone hcall hcall' (by simp) (by simp [hsame])
  exact ⟨hworker, congrArg Prod.fst hitem⟩

/-- The thread of the worker is the only one with the execution. -/
theorem one_call_per_request_one :
    ∃ fleet call, follow Fleet.next (Fleet.start fun _ => ["0"]) oneTakesUp = some fleet ∧
      ("0", call) ∈ (fleet.workers true).pool.inProgress ∧
      ∀ w thread call', (thread, call') ∈ (fleet.workers w).pool.inProgress →
        call.ctx.executionId = call'.ctx.executionId → true = w ∧ "0" = thread := by
  have hrun : (follow Fleet.next (Fleet.start fun _ => ["0"]) oneTakesUp).map
      (fun fleet => (fleet.workers true).pool.inProgress.map Prod.fst) = some ["0"] := by
    decide +kernel
  obtain ⟨fleet, hfleet, hthreads⟩ := Option.map_eq_some_iff.mp hrun
  have hmem : "0" ∈ (fleet.workers true).pool.inProgress.map Prod.fst := by simp [hthreads]
  obtain ⟨⟨thread, call⟩, hcall, rfl⟩ := List.mem_map.mp hmem
  exact ⟨fleet, call, hfleet, hcall, fun w other call' =>
    (one_call_per_request hfleet).2 (by decide) true w _ other call call' hcall⟩

end Walkoff.Analysis
