import Mathlib.Data.Int.Notation
import Mathlib.Data.List.Sort
import Mathlib.Order.Defs.LinearOrder
import Mathlib.Algebra.Order.Ring.Int

set_option autoImplicit false

/-! # NewsCollection

A collection holds the news that are meant for the platform and the version of the app, newest first. The views
on it sort again: in the other direction, where the source says "from newest to oldest", and the incident that is
shown is the last one. The order of `orderBy` is stable. -/

namespace Klarity.NewsFeed

/-! ## The model -/

inductive NewsType
  | incident
  | alert
  | announcement
  | info
  | update
  deriving DecidableEq, Repr

/-- A missing range of versions is the empty one. -/
structure NewsTarget where
  klarityVersion : String
  platforms : List String
  deriving DecidableEq, Repr

structure NewsAction where
  label : String
  url : Option String := none
  route : Option String := none
  event : Option String := none
  deriving DecidableEq, Repr

/-- A text that is missing is empty and a number that is missing is `0`; the filter takes both for missing. -/
structure News where
  id : ℤ
  title : String
  content : String
  target : NewsTarget
  action : NewsAction
  date : ℤ
  type : NewsType
  read : Bool
  color : Option String := none
  repeatOnStartup : Option Bool := none
  deriving DecidableEq, Repr

/-- `satisfies` is `semver.satisfies()` with prereleases included. -/
structure Environment where
  version : String
  platform : String
  satisfies : String → String → Bool

/-- The news are filtered by platform and versions. -/
def isApplicable (env : Environment) (newsItem : News) : Bool :=
  (newsItem.target.klarityVersion = "" || env.satisfies env.version newsItem.target.klarityVersion) &&
    (env.platform = "browser" || env.platform ∈ newsItem.target.platforms) &&
    newsItem.type ≠ .update && newsItem.id ≠ 0 && newsItem.title ≠ "" && newsItem.content ≠ "" &&
    newsItem.action.label ≠ "" && newsItem.date ≠ 0

inductive Order
  | asc
  | desc

def Order.le : Order → ℤ → ℤ → Bool
  | .asc, a, b => a ≤ b
  | .desc, a, b => b ≤ a

def orderBy (order : Order) (news : List News) : List News :=
  news.mergeSort fun a b => order.le a.date b.date

structure NewsCollection where
  all : List News
  update : Option News
  deriving DecidableEq, Repr

def newsCollection (env : Environment) (data : List News) : NewsCollection where
  all := orderBy .desc (data.filter (isApplicable env))
  update := data.find? (·.type = .update)

structure NewsTypesState where
  all : List News
  unread : List News
  read : List News
  deriving DecidableEq, Repr

namespace NewsCollection

def unread (c : NewsCollection) : List News :=
  orderBy .asc (c.all.filter fun item => !item.read)

def read (c : NewsCollection) : List News :=
  orderBy .asc (c.all.filter fun item => item.read)

def incident (c : NewsCollection) : Option News :=
  (c.all.filter fun item => item.type = .incident).getLast?

def state (c : NewsCollection) : NewsTypesState :=
  ⟨c.all, c.unread, c.read⟩

variable (env : Environment)

def alerts (c : NewsCollection) : NewsTypesState :=
  (newsCollection env (orderBy .asc (c.all.filter fun item => item.type = .alert))).state

def announcements (c : NewsCollection) : NewsTypesState :=
  (newsCollection env (c.all.filter fun item => item.type = .announcement && !item.read)).state

def infos (c : NewsCollection) : NewsTypesState :=
  (newsCollection env (c.all.filter fun item => item.type = .info && !item.read)).state

end NewsCollection

/-! ## What is promised -/

variable {env : Environment} {news unread read : List News} {data : List News}

def NewestFirst (news : List News) : Prop :=
  news.Pairwise fun a b => b.date ≤ a.date

/-- The news are split into unread and read ones, each from newest to oldest. -/
structure Parts (news unread read : List News) : Prop where
  perm : (unread ++ read).Perm news
  allUnread : ∀ item ∈ unread, item.read = false
  allRead : ∀ item ∈ read, item.read = true
  unreadNewestFirst : NewestFirst unread
  readNewestFirst : NewestFirst read

/-- The incident is a newest one of the news. -/
structure NewestIncident (news : List News) (incident : Option News) : Prop where
  isSome : (∃ item ∈ news, item.type = .incident) → incident.isSome = true
  newest : ∀ shown, incident = some shown → shown ∈ news ∧ shown.type = .incident ∧
    ∀ item ∈ news, item.type = .incident → item.date ≤ shown.date

/-- What a collection of these applicable news is described to show. -/
structure AsDescribed (env : Environment) (news : List News) (c : NewsCollection) : Prop where
  all : c.all.Perm news
  newestFirst : NewestFirst c.all
  incident : NewestIncident news c.incident
  parts : Parts news c.unread c.read
  alerts : Parts (news.filter fun item => item.type = .alert) (c.alerts env).unread (c.alerts env).read
  allAlerts : (c.alerts env).all.Perm (news.filter fun item => item.type = .alert)
  announcements : (c.announcements env).all.Perm
    (news.filter fun item => item.type = .announcement && !item.read)
  infos : (c.infos env).all.Perm (news.filter fun item => item.type = .info && !item.read)

def SameDate (news : List News) : Prop :=
  ∀ a ∈ news, ∀ b ∈ news, a.date = b.date

/-! ## Sorting -/

theorem orderBy_perm (order : Order) (news : List News) : (orderBy order news).Perm news :=
  List.mergeSort_perm news _

theorem mem_orderBy {order : Order} {item : News} : item ∈ orderBy order news ↔ item ∈ news :=
  (orderBy_perm order news).mem_iff

theorem pairwise_orderBy (order : Order) (news : List News) :
    (orderBy order news).Pairwise fun a b => order.le a.date b.date = true := by
  refine List.pairwise_mergeSort ?_ ?_ news
  · intro a b c hab hbc
    cases order with
    | asc =>
      simp only [Order.le, decide_eq_true_eq] at hab hbc ⊢
      exact hab.trans hbc
    | desc =>
      simp only [Order.le, decide_eq_true_eq] at hab hbc ⊢
      exact hbc.trans hab
  · intro a b
    cases order with
    | asc => simpa [Order.le] using le_total a.date b.date
    | desc => simpa [Order.le] using le_total b.date a.date

theorem newestFirst_orderBy_desc (news : List News) : NewestFirst (orderBy .desc news) := by
  refine (pairwise_orderBy .desc news).imp ?_
  intro a b hab
  simpa [Order.le] using hab

theorem SameDate.newestFirst (h : SameDate news) : NewestFirst news := by
  refine List.pairwise_of_forall_mem_list ?_
  intro a ha b hb
  exact (h b hb a ha).le

/-- Oldest first and newest first at once is one date only. -/
theorem newestFirst_orderBy_asc_iff (news : List News) : NewestFirst (orderBy .asc news) ↔ SameDate news := by
  constructor
  · intro hnewest
    have holdest : (orderBy .asc news).Pairwise (flip fun a b => b.date ≤ a.date) := by
      refine (pairwise_orderBy .asc news).imp ?_
      intro a b hab
      show a.date ≤ b.date
      simpa [Order.le] using hab
    have hle := List.Pairwise.forall_of_forall_of_flip (R := fun a b : News => b.date ≤ a.date)
      (fun _ _ => le_rfl) hnewest holdest
    intro a ha b hb
    exact le_antisymm (hle (mem_orderBy.2 hb) (mem_orderBy.2 ha)) (hle (mem_orderBy.2 ha) (mem_orderBy.2 hb))
  · intro h
    refine SameDate.newestFirst ?_
    intro a ha b hb
    exact h a (mem_orderBy.1 ha) b (mem_orderBy.1 hb)

/-- The last one of news that are sorted newest first is an oldest one. -/
theorem NewestFirst.getLast_le (h : NewestFirst news) {last : News} (hlast : news.getLast? = some last) :
    ∀ item ∈ news, last.date ≤ item.date := by
  obtain ⟨before, rfl⟩ := List.getLast?_eq_some_iff.1 hlast
  intro item hitem
  rcases List.mem_append.1 hitem with hitem | hitem
  · exact (List.pairwise_append.1 h).2.2 item hitem last (List.mem_singleton_self last)
  · rw [List.mem_singleton.1 hitem]

/-! ## The views -/

/-- The news that are meant for the app. -/
def applicable (env : Environment) (data : List News) : List News :=
  data.filter (isApplicable env)

theorem all_perm (env : Environment) (data : List News) :
    (newsCollection env data).all.Perm (applicable env data) :=
  orderBy_perm .desc _

/-- A view on applicable news filters nothing more. -/
theorem all_perm_of_applicable (h : ∀ item ∈ news, isApplicable env item = true) :
    (newsCollection env news).all.Perm news := by
  have hall : applicable env news = news := List.filter_eq_self.2 h
  have hperm := all_perm env news
  rw [hall] at hperm
  exact hperm

theorem SameDate.of_subset {a b : List News} (h : SameDate a) (hsub : ∀ item ∈ b, item ∈ a) : SameDate b :=
  fun x hx y hy => h x (hsub x hx) y (hsub y hy)

theorem sameDate_congr {a b : List News} (h : a.Perm b) : SameDate a ↔ SameDate b :=
  ⟨fun hsame => hsame.of_subset fun _ hitem => h.mem_iff.2 hitem,
    fun hsame => hsame.of_subset fun _ hitem => h.mem_iff.1 hitem⟩

/-- The two parts are always complete; their order is the one described for one date each. -/
theorem parts_iff {c : NewsCollection} (h : c.all.Perm news) : Parts news c.unread c.read ↔
    SameDate (news.filter fun item => !item.read) ∧ SameDate (news.filter fun item => item.read) := by
  have hunread := sameDate_congr (h.filter fun item => !item.read)
  have hread := sameDate_congr (h.filter fun item => item.read)
  constructor
  · intro hparts
    exact ⟨hunread.1 ((newestFirst_orderBy_asc_iff _).1 hparts.unreadNewestFirst),
      hread.1 ((newestFirst_orderBy_asc_iff _).1 hparts.readNewestFirst)⟩
  · rintro ⟨hsameUnread, hsameRead⟩
    refine ⟨?_, ?_, ?_, (newestFirst_orderBy_asc_iff _).2 (hunread.2 hsameUnread),
      (newestFirst_orderBy_asc_iff _).2 (hread.2 hsameRead)⟩
    · have hparts : (c.unread ++ c.read).Perm
          ((c.all.filter fun item => !item.read) ++ c.all.filter fun item => item.read) :=
        (orderBy_perm .asc _).append (orderBy_perm .asc _)
      exact hparts.trans (List.perm_append_comm.trans
        ((List.filter_append_perm (fun item : News => item.read) c.all).trans h))
    · intro item hitem
      simpa using (List.mem_filter.1 (mem_orderBy.1 hitem)).2
    · intro item hitem
      simpa using (List.mem_filter.1 (mem_orderBy.1 hitem)).2

/-- The incident that is shown is an oldest one. -/
theorem newestIncident_iff (env : Environment) (data : List News) :
    NewestIncident (applicable env data) (newsCollection env data).incident ↔
      SameDate ((applicable env data).filter fun item => item.type = .incident) := by
  have hperm := all_perm env data
  have hsorted : NewestFirst ((newsCollection env data).all.filter fun item => item.type = .incident) :=
    (newestFirst_orderBy_desc _).filter _
  have hmem : ∀ item, item ∈ (newsCollection env data).all.filter (fun item => item.type = .incident) ↔
      item ∈ applicable env data ∧ item.type = .incident := by
    intro item
    rw [List.mem_filter, hperm.mem_iff, decide_eq_true_eq]
  constructor
  · intro h a ha b hb
    obtain ⟨ha, hatype⟩ := List.mem_filter.1 ha
    obtain ⟨hb, hbtype⟩ := List.mem_filter.1 hb
    rw [decide_eq_true_eq] at hatype hbtype
    obtain ⟨shown, hshown⟩ := Option.isSome_iff_exists.1 (h.isSome ⟨a, ha, hatype⟩)
    obtain ⟨-, -, hnewest⟩ := h.newest shown hshown
    have holdest := hsorted.getLast_le hshown
    have hadate := le_antisymm (hnewest a ha hatype) (holdest a ((hmem a).2 ⟨ha, hatype⟩))
    have hbdate := le_antisymm (hnewest b hb hbtype) (holdest b ((hmem b).2 ⟨hb, hbtype⟩))
    exact hadate.trans hbdate.symm
  · intro h
    refine ⟨?_, ?_⟩
    · rintro ⟨item, hitem, htype⟩
      exact List.getLast?_isSome.2 (List.ne_nil_of_mem ((hmem item).2 ⟨hitem, htype⟩))
    · intro shown hshown
      obtain ⟨hitem, htype⟩ := (hmem shown).1 (List.mem_of_getLast? hshown)
      refine ⟨hitem, htype, ?_⟩
      intro other hother hothertype
      exact (h other (List.mem_filter.2 ⟨hother, by simpa using hothertype⟩) shown
        (List.mem_filter.2 ⟨hitem, by simpa using htype⟩)).le

/-! ## The main result -/

/-- A view on the applicable news that pass a test. -/
theorem all_perm_view {view : List News} {p : News → Bool}
    (h : view.Perm ((newsCollection env data).all.filter p)) :
    (newsCollection env view).all.Perm ((applicable env data).filter p) := by
  have hview : view.Perm ((applicable env data).filter p) := h.trans ((all_perm env data).filter p)
  refine (all_perm_of_applicable ?_).trans hview
  intro item hitem
  exact (List.mem_filter.1 (List.mem_filter.1 (hview.mem_iff.1 hitem)).1).2

/-- The collection is as described if and only if the incidents have one date, the unread news one, and the read
ones one. -/
theorem asDescribed_iff (env : Environment) (data : List News) :
    AsDescribed env (applicable env data) (newsCollection env data) ↔
      SameDate ((applicable env data).filter fun item => item.type = .incident) ∧
      SameDate ((applicable env data).filter fun item => !item.read) ∧
      SameDate ((applicable env data).filter fun item => item.read) := by
  constructor
  · intro h
    exact ⟨(newestIncident_iff env data).1 h.incident, (parts_iff h.all).1 h.parts⟩
  · rintro ⟨hincident, hunread, hread⟩
    have halerts : ((newsCollection env data).alerts env).all.Perm
        ((applicable env data).filter fun item => item.type = .alert) := all_perm_view (orderBy_perm .asc _)
    refine ⟨all_perm env data, newestFirst_orderBy_desc _, (newestIncident_iff env data).2 hincident,
      (parts_iff (all_perm env data)).2 ⟨hunread, hread⟩, ?_, halerts, all_perm_view (.refl _),
      all_perm_view (.refl _)⟩
    refine (parts_iff halerts).2 ⟨hunread.of_subset ?_, hread.of_subset ?_⟩
    · intro item hitem
      obtain ⟨hitem, hmark⟩ := List.mem_filter.1 hitem
      exact List.mem_filter.2 ⟨(List.mem_filter.1 hitem).1, hmark⟩
    · intro item hitem
      obtain ⟨hitem, hmark⟩ := List.mem_filter.1 hitem
      exact List.mem_filter.2 ⟨(List.mem_filter.1 hitem).1, hmark⟩

/-- An unread incident of a day. -/
def incidentOf (date : ℤ) : News :=
  { id := date, title := "title", content := "content", target := ⟨"", ["linux"]⟩, action := { label := "more" },
    date := date, type := .incident, read := false }

def linux : Environment :=
  ⟨"1.0.0", "linux", fun _ _ => true⟩

/-- Of two incidents the older one is shown. -/
theorem not_asDescribed_of_two_incidents :
    ¬ AsDescribed linux (applicable linux [incidentOf 2, incidentOf 1])
      (newsCollection linux [incidentOf 2, incidentOf 1]) := by
  intro h
  have hall : (newsCollection linux [incidentOf 2, incidentOf 1]).all = [incidentOf 2, incidentOf 1] :=
    List.mergeSort_of_pairwise (by decide)
  have hshown : (newsCollection linux [incidentOf 2, incidentOf 1]).incident = some (incidentOf 1) := by
    unfold NewsCollection.incident
    rw [hall]
    rfl
  obtain ⟨-, -, hnewest⟩ := h.incident.newest _ hshown
  exact absurd (hnewest (incidentOf 2) (by decide) rfl) (by decide)

end Klarity.NewsFeed
