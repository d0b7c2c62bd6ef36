import Sn360Es.Ingestion.OutlookMailbox
import Sn360Es.Ingestion.Poller
import Sn360Es.Ingestion.ZohoMailbox
import Sn360Es.Lib.Paging

/-!
# Bursts (`pollMailbox` over `FetchNew` of Outlook and Zoho)

A burst is a folder that does not change while the mailbox is polled again and again until `FetchNew` returns
nothing. Nothing fails, and the checkpoint store returns what it was given. A page of the server holds at most
`limit` messages; among messages of one time it may pick any.

* `ingests_iff` — such a run is a reader of pages with the checkpoint as its cursor (`Lib.Paging`);
* `burst_ingested_iff` — Zoho lists the newest messages, so a burst is ingested exactly when it fits in one page;
  Outlook lists the earliest ones after the second of the checkpoint, and a burst is ingested exactly when its
  times can be cut into full pages.
-/

namespace Sn360Es.Ingestion

open Lib Lib.Paging

/-! ### Polling until nothing is left -/

structure PollState where
  checkpoint : ℤ
  published : List RawEmail := []

/-- What a run of cycles reads: `FetchNew` and the clock at each cycle, and the lookback. -/
structure PollRun where
  fetchNew : ℕ → ℤ → Except String (List RawEmail)
  now : ℕ → ℤ
  lookback : ℤ

namespace PollRun

variable (r : PollRun) (start : ℤ)

/-- Where a cycle starts. -/
def since (k : ℕ) (s : PollState) : ℤ := resolveSince (r.now k) r.lookback (.ok (some s.checkpoint))

/-- One cycle of `pollMailbox` in which every message is published. -/
def cycle (k : ℕ) (s : PollState) : PollState :=
  match r.fetchNew k (r.since k s) with
  | .error _ => s
  | .ok raws =>
    { checkpoint := (newCheckpoint RawEmail.receivedAt (r.since k s)
        (raws.map (⟨·, true, r.now k⟩))).getD s.checkpoint
      published := s.published ++ raws }

/-- The state after some cycles. -/
def after : ℕ → PollState
  | 0 => { checkpoint := start }
  | k + 1 => r.cycle k (after k)

/-- What `FetchNew` returns in a cycle. -/
def batch (k : ℕ) : Except String (List RawEmail) := r.fetchNew k (r.since k (r.after start k))

/-- The cycles come to one in which `FetchNew` returns nothing, and have then published every later message. -/
def Ingests (messages : List RawEmail) : Prop :=
  ∃ n, (∀ i < n, r.batch start i ≠ .ok []) ∧ r.batch start n = .ok [] ∧
    ∀ m ∈ messages, start < m.receivedAt → m ∈ (r.after start n).published

end PollRun

section Run

/-- Without failures the checkpoint moves to the latest message. -/
lemma newCheckpoint_of_ok {since wall : ℤ} (hsince : 0 < since) {raws : List RawEmail}
    (hlater : ∀ raw ∈ raws, since < raw.receivedAt) :
    (newCheckpoint RawEmail.receivedAt since (raws.map (⟨·, true, wall⟩))).getD since =
      nextCursor RawEmail.receivedAt since raws := by
  have hbarrier : failBarrier RawEmail.receivedAt (raws.map (⟨·, true, wall⟩)) = 0 := by
    unfold failBarrier
    generalize (0 : ℤ) = barrier
    clear hlater
    induction raws generalizing barrier with
    | nil => rfl
    | cons raw raws ih => exact ih barrier
  have htimes : successes RawEmail.receivedAt (raws.map (⟨·, true, wall⟩)) = raws.map RawEmail.receivedAt := by
    unfold successes
    rw [List.filter_eq_self.mpr (by simp), List.map_map]
    refine List.map_congr_left ?_
    intro raw hraw
    have hpos := hlater raw hraw
    exact if_neg (show raw.receivedAt ≠ 0 by omega)
  have hmax : newest RawEmail.receivedAt since (raws.map (⟨·, true, wall⟩)) =
      nextCursor RawEmail.receivedAt since raws := by
    unfold newest nextCursor
    rw [hbarrier, htimes]
    congr 1
    funext a b
    unfold advanceNewest
    rw [if_neg (by simp)]
    split_ifs <;> omega
  have hle : since ≤ nextCursor RawEmail.receivedAt since raws := (le_foldl_max _ _).1
  unfold newCheckpoint
  rw [hmax]
  split_ifs
  · rfl
  · rw [Option.getD_none]
    omega

/-- The cursor of a reader of these pages. -/
abbrev pageCursor (page : ℕ → ℤ → List RawEmail) (start : ℤ) : ℕ → ℤ :=
  cursor RawEmail.receivedAt (later RawEmail.receivedAt page) start

variable {r : PollRun} {start : ℤ} {page : ℕ → ℤ → List RawEmail} (hstart : 0 < start)
  (hfetch : ∀ k s, start ≤ s → r.fetchNew k s = .ok (later RawEmail.receivedAt page k s))

include hstart hfetch

/-- A cycle that starts at the cursor gets the answer of the reader. -/
lemma batch_eq {k : ℕ} (hk : (r.after start k).checkpoint = pageCursor page start k) :
    r.since k (r.after start k) = pageCursor page start k ∧
      r.batch start k = .ok (later RawEmail.receivedAt page k (pageCursor page start k)) := by
  have hmono : start ≤ pageCursor page start k := cursor_mono (Nat.zero_le k)
  have hsince : r.since k (r.after start k) = pageCursor page start k := by
    have hne : (r.after start k).checkpoint ≠ 0 := by omega
    rw [← hk]
    exact if_neg hne
  refine ⟨hsince, ?_⟩
  unfold PollRun.batch
  rw [hsince]
  exact hfetch k _ hmono

/-- The checkpoint is the cursor of a reader. -/
lemma after_eq (k : ℕ) : (r.after start k).checkpoint = pageCursor page start k ∧
    (r.after start k).published = seen RawEmail.receivedAt (later RawEmail.receivedAt page) start k := by
  induction k with
  | zero => exact ⟨rfl, rfl⟩
  | succ k ih =>
    obtain ⟨hcheckpoint, hpublished⟩ := ih
    obtain ⟨hsince, hok⟩ := batch_eq hstart hfetch hcheckpoint
    have hmono : start ≤ pageCursor page start k := cursor_mono (Nat.zero_le k)
    unfold PollRun.batch at hok
    rw [PollRun.after, PollRun.cycle, hok, hsince, hcheckpoint, hpublished]
    exact ⟨newCheckpoint_of_ok (by omega) fun raw hraw => (mem_later.mp hraw).2, rfl⟩

/-- **A burst is read in pages.** -/
theorem ingests_iff (messages : List RawEmail) :
    r.Ingests start messages ↔ Drains RawEmail.receivedAt (later RawEmail.receivedAt page) start messages := by
  have hbatch : ∀ k, r.batch start k = .ok [] ↔
      later RawEmail.receivedAt page k (pageCursor page start k) = [] := by
    intro k
    have hok := (batch_eq hstart hfetch (after_eq hstart hfetch k).1).2
    rw [hok, Except.ok.injEq]
  unfold PollRun.Ingests Drains
  refine exists_congr ?_
  intro n
  rw [(after_eq hstart hfetch n).2, hbatch n]
  simp only [ne_eq, hbatch]

end Run

/-! ### Outlook -/

/-- A folder of Outlook: messages with distinct ids, and a server that returns, in every cycle, the earliest ones
after the filter. -/
structure OutlookFolder where
  messages : List GraphMessage
  ids : (messages.map (·.id)).Nodup
  toLower : String → String
  list : ℕ → Option ℤ → ℕ → List GraphMessage
  serves : ∀ k (filter : Option ℤ) n, FirstPage (fun a b => a.receivedDateTime ≤ b.receivedDateTime) n
    (messages.filter fun m => ∀ s ∈ filter, s < m.receivedDateTime) (list k filter n)

namespace OutlookFolder

variable (o : OutlookFolder) (mailbox : Mailbox) (limit : ℕ)

/-- The provider of one cycle. -/
def provider (k : ℕ) : OutlookMailboxProvider where
  toLower := o.toLower
  list filter top := .ok (o.list k filter top.toNat)

def toRawEmail : GraphMessage → RawEmail := (o.provider 0).toRawEmail mailbox

/-- The messages of the folder, as `FetchNew` returns them. -/
def raws : List RawEmail := o.messages.map (o.toRawEmail mailbox)

def polled (now : ℕ → ℤ) (lookback : ℤ) : PollRun where
  fetchNew k since := (o.provider k).fetchNew mailbox since limit
  now := now
  lookback := lookback

/-- The page that `FetchNew` gets from the server. -/
def page (k : ℕ) (s : ℤ) : List RawEmail :=
  (o.list k (some (GoTime.truncateSecond s)) limit).map (o.toRawEmail mailbox)

lemma raws_nodup : (o.raws mailbox).Nodup :=
  List.Nodup.of_map RawEmail.providerMessageID (by rw [raws, List.map_map]; exact o.ids)

lemma toRawEmail_inj {a b : GraphMessage} (ha : a ∈ o.messages) (hb : b ∈ o.messages)
    (h : o.toRawEmail mailbox a = o.toRawEmail mailbox b) : a = b :=
  List.inj_on_of_nodup_map o.ids ha hb (congrArg RawEmail.providerMessageID h)

lemma firstPage (k : ℕ) (s : ℤ) : FirstPage (fun a b => a.receivedAt ≤ b.receivedAt) limit
    ((o.raws mailbox).filter (GoTime.truncateSecond s < ·.receivedAt)) (o.page mailbox limit k s) := by
  have hserves := o.serves k (some (GoTime.truncateSecond s)) limit
  simp only [Option.mem_def, Option.some.injEq, forall_eq'] at hserves
  have hmap := hserves.map (f := o.toRawEmail mailbox) (q := fun a b => a.receivedAt ≤ b.receivedAt)
    (fun a ha b hb => o.toRawEmail_inj mailbox (List.mem_filter.mp ha).1 (List.mem_filter.mp hb).1)
    (fun a _ b _ hab => hab)
  rw [raws, List.filter_map]
  exact hmap

variable {limit mailbox} in
lemma fetchNew_eq (haddress : mailbox.address ≠ "") (hlimit : 1 ≤ limit) (now : ℕ → ℤ) (lookback : ℤ) (k : ℕ)
    {s : ℤ} (hs : 0 < s) : (o.polled mailbox limit now lookback).fetchNew k s =
      .ok (later RawEmail.receivedAt (o.page mailbox limit) k s) := by
  have hne : s ≠ 0 := by omega
  have hpos : ¬ (limit : ℤ) ≤ 0 := by omega
  simp only [polled, OutlookMailboxProvider.fetchNew, haddress, hne, hpos, if_false, provider, Int.toNat_natCast,
    false_or]
  rfl

/-- A burst of Outlook is ingested exactly when its times can be cut into full pages. -/
lemma ingests_iff_cuts {start : ℤ} (haddress : mailbox.address ≠ "") (hlimit : 1 ≤ limit) (hstart : 0 < start)
    (now : ℕ → ℤ) (lookback : ℤ) : (o.polled mailbox limit now lookback).Ingests start (o.raws mailbox) ↔
      Cuts GoTime.truncateSecond limit (o.messages.map (·.receivedDateTime)) start := by
  have hfetch : ∀ k s, start ≤ s → (o.polled mailbox limit now lookback).fetchNew k s =
      .ok (later RawEmail.receivedAt (o.page mailbox limit) k s) :=
    fun k s hs => o.fetchNew_eq haddress hlimit now lookback k (by omega)
  have htimes : (o.raws mailbox).map RawEmail.receivedAt = o.messages.map (·.receivedDateTime) := by
    rw [raws, List.map_map]
    rfl
  rw [ingests_iff hstart hfetch, ← htimes]
  exact earliest_drains_iff GoTime.truncateSecond_le (o.raws_nodup mailbox) (o.firstPage mailbox limit)

end OutlookFolder

/-! ### Zoho -/

/-- A folder of Zoho: dated messages with distinct ids and their content, and a server that returns, in every
cycle, the newest ones. -/
structure ZohoFolder where
  messages : List ZohoMessageHeader
  ids : (messages.map (·.messageID)).Nodup
  /-- The parser of times and the endpoint for the content; its list is not used. -/
  site : ZohoMailboxProvider
  list : ℕ → ℕ → List ZohoMessageHeader
  received : ZohoMessageHeader → ℤ
  content : ZohoMessageHeader → ZohoMessageDetail
  dated : ∀ h ∈ messages, site.parseZohoTime h.receivedTime = some (received h)
  detailed : ∀ h ∈ messages, site.detail h.folderID h.messageID = .ok (content h)
  serves : ∀ k n, FirstPage (fun a b => received b ≤ received a) n messages (list k n)

namespace ZohoFolder

variable (z : ZohoFolder) (mailbox : Mailbox) (limit : ℕ)

/-- The provider of one cycle. -/
def provider (k : ℕ) : ZohoMailboxProvider := { z.site with list := fun top => .ok (z.list k top.toNat) }

def toRawEmail (h : ZohoMessageHeader) : RawEmail :=
  ZohoMailboxProvider.toRawEmail mailbox h (z.received h) (z.content h)

/-- The messages of the folder, as `FetchNew` returns them. -/
def raws : List RawEmail := z.messages.map (z.toRawEmail mailbox)

def polled (now : ℕ → ℤ) (lookback : ℤ) : PollRun where
  fetchNew k since := (z.provider k).fetchNew mailbox since limit
  now := now
  lookback := lookback

/-- The page that `FetchNew` gets from the server. -/
def page (k : ℕ) (_ : ℤ) : List RawEmail := (z.list k limit).map (z.toRawEmail mailbox)

lemma raws_nodup : (z.raws mailbox).Nodup :=
  List.Nodup.of_map RawEmail.providerMessageID (by rw [raws, List.map_map]; exact z.ids)

lemma toRawEmail_inj {a b : ZohoMessageHeader} (ha : a ∈ z.messages) (hb : b ∈ z.messages)
    (h : z.toRawEmail mailbox a = z.toRawEmail mailbox b) : a = b :=
  List.inj_on_of_nodup_map z.ids ha hb (congrArg RawEmail.providerMessageID h)

lemma firstPage (k : ℕ) (s : ℤ) : FirstPage (fun a b => b.receivedAt ≤ a.receivedAt) limit (z.raws mailbox)
    (z.page mailbox limit k s) :=
  (z.serves k limit).map (fun _ ha _ hb => z.toRawEmail_inj mailbox ha hb) (fun _ _ _ _ hab => hab)

lemma fetchListed_eq (k : ℕ) {s : ℤ} (hs : 0 < s) {hs' : List ZohoMessageHeader}
    (hsub : ∀ h ∈ hs', h ∈ z.messages) : (z.provider k).fetchListed mailbox s hs' =
      .ok ((hs'.map (z.toRawEmail mailbox)).filter (s < ·.receivedAt)) := by
  induction hs' with
  | nil => rfl
  | cons h hs' ih =>
    have hmem := hsub h List.mem_cons_self
    have hrest := ih fun h' hh' => hsub h' (List.mem_cons_of_mem _ hh')
    have hdate : (z.provider k).parseZohoTime h.receivedTime = some (z.received h) := z.dated h hmem
    have hdetail : (z.provider k).detail h.folderID h.messageID = .ok (z.content h) := z.detailed h hmem
    have hne : s ≠ 0 := by omega
    have htime : (z.toRawEmail mailbox h).receivedAt = z.received h := rfl
    rw [ZohoMailboxProvider.fetchListed, List.map_cons, List.filter_cons, htime]
    simp only [hdate, hdetail, hrest]
    by_cases hlater : s < z.received h
    · rw [if_neg (fun hskip => hskip.2 hlater), if_pos (by simpa using hlater)]
      rfl
    · rw [if_pos ⟨hne, hlater⟩, if_neg (by simpa using hlater)]

variable {limit mailbox} in
lemma fetchNew_eq (haddress : mailbox.address ≠ "") (hlimit : 1 ≤ limit) (now : ℕ → ℤ) (lookback : ℤ) (k : ℕ)
    {s : ℤ} (hs : 0 < s) : (z.polled mailbox limit now lookback).fetchNew k s =
      .ok (later RawEmail.receivedAt (z.page mailbox limit) k s) := by
  have hpos : ¬ (limit : ℤ) ≤ 0 := by omega
  have hlist : (z.provider k).list limit = .ok (z.list k limit) := rfl
  simp only [polled, ZohoMailboxProvider.fetchNew, haddress, and_false, hpos, if_false, hlist]
  exact z.fetchListed_eq mailbox k hs (z.serves k limit).subset

/-- A burst of Zoho is ingested exactly when it fits in one page. -/
lemma ingests_iff_length {start : ℤ} (haddress : mailbox.address ≠ "") (hlimit : 1 ≤ limit) (hstart : 0 < start)
    (now : ℕ → ℤ) (lookback : ℤ) : (z.polled mailbox limit now lookback).Ingests start (z.raws mailbox) ↔
      (z.messages.filter (start < z.received ·)).length ≤ limit := by
  have hfetch : ∀ k s, start ≤ s → (z.polled mailbox limit now lookback).fetchNew k s =
      .ok (later RawEmail.receivedAt (z.page mailbox limit) k s) :=
    fun k s hs => z.fetchNew_eq haddress hlimit now lookback k (by omega)
  have hcount : ((z.raws mailbox).filter (start < ·.receivedAt)).length =
      (z.messages.filter (start < z.received ·)).length := by
    rw [raws, List.filter_map, List.length_map]
    rfl
  rw [ingests_iff hstart hfetch, ← hcount]
  exact latest_drains_iff (z.raws_nodup mailbox) (z.firstPage mailbox limit)

end ZohoFolder

/-- **When a burst is ingested in full.** -/
theorem burst_ingested_iff (z : ZohoFolder) (o : OutlookFolder) (mailbox : Mailbox) (limit : ℕ) (start : ℤ)
    (now : ℕ → ℤ) (lookback : ℤ) (haddress : mailbox.address ≠ "") (hlimit : 1 ≤ limit) (hstart : 0 < start) :
    ((z.polled mailbox limit now lookback).Ingests start (z.raws mailbox) ↔
      (z.messages.filter (start < z.received ·)).length ≤ limit) ∧
    ((o.polled mailbox limit now lookback).Ingests start (o.raws mailbox) ↔
      Cuts GoTime.truncateSecond limit (o.messages.map (·.receivedDateTime)) start) :=
  ⟨z.ingests_iff_length mailbox limit haddress hlimit hstart now lookback,
    o.ingests_iff_cuts mailbox limit haddress hlimit hstart now lookback⟩

section Samples

def pollee : Mailbox := { tenantID := "t1", address := "ann@example.com" }

/-- A message some milliseconds after an instant in 2023. -/
def graphAt (id : String) (ms : ℤ) : GraphMessage :=
  { id := id, receivedDateTime := minute 0 + ms * GoTime.millisecond }

/-- A server over messages that are sorted by time. -/
def outlookFolder (messages : List GraphMessage) (ids : (messages.map (·.id)).Nodup)
    (sorted : messages.Pairwise fun a b => a.receivedDateTime ≤ b.receivedDateTime) : OutlookFolder where
  messages := messages
  ids := ids
  toLower := id
  list _ filter n := (messages.filter fun m => ∀ s ∈ filter, s < m.receivedDateTime).take n
  serves _ _ _ := FirstPage.take ((List.Nodup.of_map _ ids).filter _) (sorted.filter _)

/-- The site of a folder whose messages have no content. -/
def zohoSite : ZohoMailboxProvider where
  parseRFC3339 _ := none
  list _ := .ok []
  detail _ _ := .ok {}

def zohoReceived (h : ZohoMessageHeader) : ℤ := (zohoSite.parseZohoTime h.receivedTime).getD 0

/-- A server over messages that are sorted from the newest on. -/
def zohoFolder (messages : List ZohoMessageHeader) (ids : (messages.map (·.messageID)).Nodup)
    (dated : ∀ h ∈ messages, (zohoSite.parseZohoTime h.receivedTime).isSome)
    (sorted : messages.Pairwise fun a b => zohoReceived b ≤ zohoReceived a) : ZohoFolder where
  messages := messages
  ids := ids
  site := zohoSite
  list _ n := messages.take n
  received := zohoReceived
  content _ := {}
  dated h hh := by rw [zohoReceived, ← Option.get_eq_getD _ (h := dated h hh), Option.some_get]
  detailed _ _ := rfl
  serves _ _ := FirstPage.take (List.Nodup.of_map _ ids) sorted

def zohoOne : ZohoFolder :=
  zohoFolder [{ messageID := "m1", receivedTime := "1700000001000" }] (by decide) (by decide) (by decide)

def zohoTwo : ZohoFolder :=
  zohoFolder
    [{ messageID := "m2", receivedTime := "1700000002000" }, { messageID := "m1", receivedTime := "1700000001000" }]
    (by decide) (by decide) (by decide +kernel)

/-- Two messages in two seconds. -/
def outlookApart : OutlookFolder := outlookFolder [graphAt "m1" 1000, graphAt "m2" 2000] (by decide) (by decide)

/-- Two messages in one second. -/
def outlookClose : OutlookFolder := outlookFolder [graphAt "m1" 1200, graphAt "m2" 1400] (by decide) (by decide)

theorem burst_of_full_pages_ingested :
    (zohoOne.polled pollee 1 (fun _ => minute 60) hour).Ingests (minute 0) (zohoOne.raws pollee) ∧
      (outlookApart.polled pollee 1 (fun _ => minute 60) hour).Ingests (minute 0) (outlookApart.raws pollee) := by
  have hiff := burst_ingested_iff zohoOne outlookApart pollee 1 (minute 0) (fun _ => minute 60) hour
    (by decide) (by decide) (by decide)
  refine ⟨hiff.1.mpr (by decide +kernel), hiff.2.mpr ?_⟩
  have hfirst : minute 0 < minute 0 + 1000 * GoTime.millisecond := by decide
  exact .page hfirst (by decide) (by decide +kernel) (.last (by decide +kernel))

/-- With a limit of one message, Zoho loses the older of two; and Outlook the later of two in one second, as its
filter has no fraction of a second and lists the earlier one again. -/
theorem burst_of_two_lost :
    ¬ (zohoTwo.polled pollee 1 (fun _ => minute 60) hour).Ingests (minute 0) (zohoTwo.raws pollee) ∧
      ¬ (outlookClose.polled pollee 1 (fun _ => minute 60) hour).Ingests (minute 0) (outlookClose.raws pollee) := by
  rw [zohoTwo.ingests_iff_length pollee 1 (by decide) (by decide) (by decide),
    outlookClose.ingests_iff_cuts pollee 1 (by decide) (by decide) (by decide)]
  refine ⟨by decide +kernel, ?_⟩
  have htimes : outlookClose.messages.map (·.receivedDateTime) =
      [minute 0 + 1200 * GoTime.millisecond, minute 0 + 1400 * GoTime.millisecond] := rfl
  rw [htimes]
  intro hcuts
  cases hcuts with
  | done hdone => exact absurd hdone (by decide)
  | last hlast => exact absurd hlast (by decide +kernel)
  | page _ hmem hfull hrest =>
    rcases List.mem_pair.mp hmem with rfl | rfl
    · -- from the first message on, the page is the first message again
      cases hrest with
      | done hdone => exact absurd hdone (by decide)
      | last hlast => exact absurd hlast (by decide +kernel)
      | page hlt hmem hfull _ =>
        rcases List.mem_pair.mp hmem with rfl | rfl
        · exact absurd hlt (lt_irrefl _)
        · exact absurd hfull (by decide +kernel)
    · exact absurd hfull (by decide +kernel)

end Samples

end Sn360Es.Ingestion
