import Mathlib.Data.List.Perm.Basic
import Walkoff.Program.Notifications

/-!
# Which notifications are recent

Where a user has fewer unread messages than are shown, the read ones fill the list up. They are
taken in the order of the table, which need not be that of their creation.
-/

set_option autoImplicit false

namespace Walkoff.Analysis

open Walkoff.Program

/-! ## What has to be shown -/

/-- The unread messages of a user. -/
def unreadBy (userId : ℤ) (messages : List DatedMessage) : List DatedMessage :=
  messages.filter fun message => !message.userHasRead userId

/-- The messages that a user has read. -/
def readBy (userId : ℤ) (messages : List DatedMessage) : List DatedMessage :=
  messages.filter fun message => message.userHasRead userId

/-- The messages with fewer than `n` more recent ones. -/
def newest (n : ℕ) (messages : List DatedMessage) : List DatedMessage :=
  messages.filter fun message =>
    messages.countP (fun other => message.createdAt < other.createdAt) < n

/-- The recent notifications of a user. -/
structure ShowsRecent (userId : ℤ) (messages shown : List DatedMessage) : Prop where
  descending : shown.Pairwise fun m n => n.createdAt < m.createdAt
  few : (unreadBy userId messages).length < 5 →
    shown.Perm (unreadBy userId messages ++
      newest (min (readBy userId messages).length (5 - (unreadBy userId messages).length))
        (readBy userId messages))
  many : 5 ≤ (unreadBy userId messages).length →
    shown.Perm (newest (min (unreadBy userId messages).length 20) (unreadBy userId messages))

/-! ## The loop -/

/-- What the loop has collected after some messages: all unread ones and, as long as it fills in,
all read ones; it stops filling in when more than five unread ones have come before. -/
structure CollectedFrom (userId : ℤ) (messages : List DatedMessage) (collected : Collected) :
    Prop where
  unread : collected.unreadMessages = unreadBy userId messages
  read : collected.fillInWithRead = true → collected.readMessages = readBy userId messages
  stopped : collected.fillInWithRead = false → 5 < collected.unreadMessages.length

/-- A turn more collects from one message more. -/
theorem collectedFrom_turn {userId : ℤ} {messages : List DatedMessage} {collected : Collected}
    (h : CollectedFrom userId messages collected) (message : DatedMessage) :
    CollectedFrom userId (messages ++ [message]) (collected.turn userId message) := by
  unfold Collected.turn
  cases hread : message.userHasRead userId with
  | false =>
    refine ⟨?_, fun hfill => ?_, fun hfill => ?_⟩
    · simp [unreadBy, hread, h.unread]
    · simpa [readBy, hread] using h.read hfill
    · have hstopped := h.stopped hfill
      simp only [Bool.not_false, if_true, List.length_append, List.length_singleton]
      omega
  | true =>
    have hunread : unreadBy userId (messages ++ [message]) = unreadBy userId messages := by
      simp [unreadBy, hread]
    have hall : readBy userId (messages ++ [message]) = readBy userId messages ++ [message] := by
      simp [readBy, hread]
    simp only [Bool.not_true, Bool.false_eq_true, if_false]
    split
    · rename_i hfill
      split
      · rename_i hmany
        exact ⟨h.unread.trans hunread.symm, fun hfilled => (by cases hfilled), fun _ => hmany⟩
      · exact ⟨h.unread.trans hunread.symm,
          fun _ => (congrArg (· ++ [message]) (h.read hfill)).trans hall.symm,
          fun hstopped => absurd (hfill.symm.trans hstopped) Bool.noConfusion⟩
    · rename_i hfill
      exact ⟨h.unread.trans hunread.symm, fun hfilled => absurd hfilled hfill, h.stopped⟩

/-- The loop collects from all messages. -/
theorem collectedFrom_foldl {userId : ℤ} (messages : List DatedMessage) :
    CollectedFrom userId messages (messages.foldl (Collected.turn userId)
      { unreadMessages := [], readMessages := [], fillInWithRead := true }) := by
  induction messages using List.reverseRecOn with
  | nil => exact ⟨rfl, fun _ => rfl, fun h => (by cases h)⟩
  | append_singleton messages message ih =>
    rw [List.foldl_append]
    exact collectedFrom_turn ih message

/-- **What is returned**, in terms of the unread and read messages in the order of the table. -/
theorem getRecentNotifications_eq (userId : ℤ) (messages : List DatedMessage) :
    getRecentNotifications userId messages =
      if (unreadBy userId messages).length < 5 then
        sortByCreation (unreadBy userId messages ++
          (readBy userId messages).take (5 - (unreadBy userId messages).length))
      else (sortByCreation (unreadBy userId messages)).take 20 := by
  have h : CollectedFrom userId messages (messages.foldl (Collected.turn userId)
      { unreadMessages := [], readMessages := [], fillInWithRead := true }) :=
    collectedFrom_foldl messages
  unfold getRecentNotifications
  dsimp only
  rw [h.unread]
  split
  · rename_i hboth
    obtain ⟨hfill, hfew⟩ := Bool.and_eq_true_iff.mp hboth
    have hfew' : (unreadBy userId messages).length < 5 := of_decide_eq_true hfew
    have hunread : (unreadBy userId messages).take 5 = unreadBy userId messages :=
      List.take_of_length_le hfew'.le
    rw [if_pos hfew', h.read hfill, List.take_append, hunread]
    refine List.take_of_length_le ?_
    rw [sortByCreation, List.length_mergeSort, List.length_append, List.length_take]
    unfold maxNotifications
    omega
  · rename_i hnot
    rw [if_neg ?_]
    · rfl
    · intro hfew
      refine hnot (Bool.and_eq_true_iff.mpr ⟨?_, decide_eq_true hfew⟩)
      by_contra hstopped
      have hmany := h.stopped ((Bool.not_eq_true _).mp hstopped)
      rw [h.unread] at hmany
      omega

/-! ## Sorting -/

/-- Sorting keeps the messages. -/
theorem sortByCreation_perm (messages : List DatedMessage) :
    (sortByCreation messages).Perm messages :=
  List.mergeSort_perm messages _

/-- Messages with distinct creation times descend strictly. -/
theorem sortByCreation_descending {messages : List DatedMessage}
    (hdistinct : (messages.map DatedMessage.createdAt).Nodup) :
    (sortByCreation messages).Pairwise fun m n => n.createdAt < m.createdAt := by
  have hsorted : (sortByCreation messages).Pairwise fun m n => n.createdAt ≤ m.createdAt := by
    have htrans : ∀ l m n : DatedMessage, decide (m.createdAt ≤ l.createdAt) = true →
        decide (n.createdAt ≤ m.createdAt) = true → decide (n.createdAt ≤ l.createdAt) = true := by
      intro l m n hlm hmn
      exact decide_eq_true ((of_decide_eq_true hmn).trans (of_decide_eq_true hlm))
    have htotal : ∀ m n : DatedMessage,
        (decide (n.createdAt ≤ m.createdAt) || decide (m.createdAt ≤ n.createdAt)) = true := by
      simpa using fun m n : DatedMessage => le_total n.createdAt m.createdAt
    exact (List.pairwise_mergeSort htrans htotal messages).imp fun h => of_decide_eq_true h
  have hne : (sortByCreation messages).Pairwise fun m n => m.createdAt ≠ n.createdAt := by
    rw [← List.pairwise_map (f := DatedMessage.createdAt) (R := (· ≠ ·))]
    exact ((sortByCreation_perm messages).map _).nodup_iff.mpr hdistinct
  exact hsorted.imp₂ (fun _ _ hle hne => lt_of_le_of_ne hle (Ne.symm hne)) hne

/-- In descending order the newest messages come first. -/
theorem newest_of_descending (n : ℕ) {messages : List DatedMessage}
    (h : messages.Pairwise fun m n => n.createdAt < m.createdAt) :
    newest n messages = messages.take n := by
  unfold newest
  induction messages generalizing n with
  | nil => simp
  | cons m messages ih =>
    obtain ⟨hfirst, hrest⟩ := List.pairwise_cons.mp h
    have hnone : (m :: messages).countP (fun other => m.createdAt < other.createdAt) = 0 := by
      rw [List.countP_eq_zero]
      intro other hother
      rcases List.mem_cons.mp hother with rfl | hother
      · simp
      · simpa using (hfirst other hother).le
    have hcount : ∀ other ∈ messages,
        (m :: messages).countP (fun newer => other.createdAt < newer.createdAt) =
          messages.countP (fun newer => other.createdAt < newer.createdAt) + 1 := by
      intro other hother
      exact List.countP_cons_of_pos (decide_eq_true (hfirst other hother))
    cases n with
    | zero => simp
    | succ n =>
      rw [List.filter_cons_of_pos (by rw [hnone]; exact decide_eq_true (Nat.succ_pos n)),
        List.take_succ_cons, ← ih n hrest]
      refine congrArg (m :: ·) (List.filter_congr fun other hother => ?_)
      rw [hcount other hother]
      simp

/-- Which messages are the newest does not depend on the order of the table. -/
theorem newest_perm (n : ℕ) {messages others : List DatedMessage} (h : messages.Perm others) :
    (newest n messages).Perm (newest n others) := by
  unfold newest
  simp only [h.countP_eq]
  exact h.filter _

/-- The first of the sorted messages are the newest. -/
theorem take_sortByCreation_perm (n : ℕ) {messages : List DatedMessage}
    (hdistinct : (messages.map DatedMessage.createdAt).Nodup) :
    ((sortByCreation messages).take n).Perm (newest n messages) := by
  rw [← newest_of_descending n (sortByCreation_descending hdistinct)]
  exact newest_perm n (sortByCreation_perm messages)

/-- Asking for more messages than there are gives them all. -/
theorem newest_min (n : ℕ) {messages : List DatedMessage}
    (hdistinct : (messages.map DatedMessage.createdAt).Nodup) :
    (newest (min messages.length n) messages).Perm (newest n messages) := by
  refine (take_sortByCreation_perm _ hdistinct).symm.trans
    (List.Perm.trans ?_ (take_sortByCreation_perm n hdistinct))
  have hlength : (sortByCreation messages).length = messages.length :=
    (sortByCreation_perm messages).length_eq
  rw [← hlength, min_comm, ← List.take_take, List.take_length]

/-! ## When the read messages are the right ones -/

/-- The read messages that fill the list up are the newest. -/
def FillsUpWithNewest (userId : ℤ) (messages : List DatedMessage) : Prop :=
  (unreadBy userId messages).length < 5 →
    ((readBy userId messages).take (5 - (unreadBy userId messages).length)).Perm
      (newest (5 - (unreadBy userId messages).length) (readBy userId messages))

/-- **The recent notifications are shown exactly when the read messages that come first in the
table are the most recent ones**, as far as they are needed. -/
theorem showsRecent_iff {userId : ℤ} {messages : List DatedMessage}
    (hdistinct : (messages.map DatedMessage.createdAt).Nodup) :
    ShowsRecent userId messages (getRecentNotifications userId messages) ↔
      FillsUpWithNewest userId messages := by
  have hunread : ((unreadBy userId messages).map DatedMessage.createdAt).Nodup :=
    hdistinct.sublist (List.filter_sublist.map _)
  have hread : ((readBy userId messages).map DatedMessage.createdAt).Nodup :=
    hdistinct.sublist (List.filter_sublist.map _)
  rw [getRecentNotifications_eq]
  by_cases hfew : (unreadBy userId messages).length < 5
  · rw [if_pos hfew]
    have hexpected := newest_min (5 - (unreadBy userId messages).length) hread
    have hshown := sortByCreation_perm (unreadBy userId messages ++
      (readBy userId messages).take (5 - (unreadBy userId messages).length))
    constructor
    · intro h _
      exact ((List.perm_append_left_iff _).mp (hshown.symm.trans (h.few hfew))).trans hexpected
    · intro h
      refine ⟨sortByCreation_descending ?_, fun _ => ?_, fun hmany => absurd hfew (by omega)⟩
      · have hall : (unreadBy userId messages ++ readBy userId messages).Perm messages := by
          have hperm := List.filter_append_perm
            (fun message : DatedMessage => !message.userHasRead userId) messages
          simpa only [Bool.not_not, unreadBy, readBy] using hperm
        refine ((hall.map _).nodup_iff.mpr hdistinct).sublist (List.Sublist.map _ ?_)
        exact (List.Sublist.refl _).append (List.take_sublist _ _)
      · exact hshown.trans (((h hfew).trans hexpected.symm).append_left _)
  · rw [if_neg hfew]
    have hshown := (take_sortByCreation_perm 20 hunread).trans (newest_min 20 hunread).symm
    refine ⟨fun _ hfew' => absurd hfew' hfew, fun _ => ⟨?_, fun hfew' => absurd hfew' hfew,
      fun _ => hshown⟩⟩
    exact (sortByCreation_descending hunread).sublist (List.take_sublist _ _)

/-- A message that the user 1 has read. -/
def seenMessage (createdAt : ℤ) : DatedMessage where
  workflowExecutionId := 5
  requiresResponse := false
  users := [1]
  roles := []
  history := [{ action := .read, userId := 1, username := "first" }]
  createdAt := createdAt

/-- Where the newest messages come first in the table, they are shown. -/
theorem newestFirst_shown :
    ([6, 5, 4, 3, 2, 1].map fun time => (seenMessage time).createdAt).Nodup ∧
      ShowsRecent 1 ([6, 5, 4, 3, 2, 1].map seenMessage)
        (getRecentNotifications 1 ([6, 5, 4, 3, 2, 1].map seenMessage)) := by
  refine ⟨by decide, (showsRecent_iff (by decide)).mpr fun _ => ?_⟩
  decide

/-- Of six read messages in the order of their creation, the last one is not shown. -/
theorem newestLast_not_shown :
    ([1, 2, 3, 4, 5, 6].map fun time => (seenMessage time).createdAt).Nodup ∧
      ¬ ShowsRecent 1 ([1, 2, 3, 4, 5, 6].map seenMessage)
        (getRecentNotifications 1 ([1, 2, 3, 4, 5, 6].map seenMessage)) := by
  refine ⟨by decide, fun h => ?_⟩
  have hshown := h.few (by decide)
  rw [getRecentNotifications_eq, if_pos (by decide)] at hshown
  have hfirst := (sortByCreation_perm _).symm.trans hshown
  have hmissing : seenMessage 6 ∉ unreadBy 1 ([1, 2, 3, 4, 5, 6].map seenMessage) ++
      (readBy 1 ([1, 2, 3, 4, 5, 6].map seenMessage)).take 5 := by
    decide
  exact hmissing (hfirst.mem_iff.mpr (by decide))

end Walkoff.Analysis
