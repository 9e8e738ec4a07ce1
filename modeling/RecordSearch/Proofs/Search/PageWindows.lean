import RecordSearch.Proofs.Search.Callback
import Mathlib.Tactic.Linarith
import Mathlib.Tactic.Ring

namespace RecordSearch

/-!
# The window that a page asks for

A page is asked for by two integers, the number of its hits and its own number, and what is sent
is a window: the position of its first hit and its width. The number of hits is looked at before
anything else, and the number of the page is not. So a window always has a width, and the windows
of two pages never share a position, but only from the first page on do they lie at positions that
a backend has.

* `Window`: a first position and a width, `Window.IsReal` if it lies at positions from zero on;
* `SearchParams.window?`: the window that parameters ask for;
* `pageWindow`: the window that stands for a page;
* `Refused`: an operation that ends before anything happens, with a callback and without;
* `RefusedOrReal`: a page that is refused, or asks for a real window.

`SameSearch` says what is sent without a callback and handed over with one, so that a window is
that of both ways. `paginate_windows` is the main result.
-/

/-! ### Windows -/

/-- The positions from a first one on, as many as the width. -/
structure Window where
  first : Int
  width : Int
deriving DecidableEq, Repr

namespace Window

/-- The position lies in the window. -/
def Holds (window : Window) (position : Int) : Prop :=
  window.first ≤ position ∧ position < window.first + window.width

/-- **A window of real positions.** It starts at zero or later and is not empty. -/
def IsReal (window : Window) : Prop := 0 ≤ window.first ∧ 1 ≤ window.width

/-- No position lies in both windows. -/
def Disjoint (window other : Window) : Prop :=
  ∀ position, window.Holds position → ¬ other.Holds position

theorem Disjoint.symm {window other : Window} (h : window.Disjoint other) :
    other.Disjoint window :=
  fun position hother hwindow => h position hwindow hother

/-- A window that ends before another one starts shares no position with it. -/
theorem disjoint_of_le {window other : Window} (h : window.first + window.width ≤ other.first) :
    window.Disjoint other := by
  intro position hwindow hother
  have hbefore := hwindow.2
  have hafter := hother.1
  omega

end Window

/-- The window that parameters ask for, if they name its first position and its width. -/
def SearchParams.window? (params : SearchParams) : Option Window :=
  match params.body.toValue.get? "from", params.body.toValue.get? "size" with
  | some (.int first), some (.int width) => some ⟨first, width⟩
  | _, _ => none

/-- The window of a page of the given number of hits. -/
def pageWindow (perPage page : Int) : Window := ⟨page * perPage - perPage, perPage⟩

section

variable {perPage : Int} (hperPage : 1 ≤ perPage)

include hperPage

/-- The window of a page is real from the first page on. -/
theorem isReal_pageWindow_iff (page : Int) : (pageWindow perPage page).IsReal ↔ 1 ≤ page := by
  have hfirst : page * perPage - perPage = (page - 1) * perPage := by ring
  show 0 ≤ page * perPage - perPage ∧ 1 ≤ perPage ↔ _
  rw [hfirst]
  constructor
  · rintro ⟨hpos, -⟩
    -- Before the first page the product of the two factors would be negative.
    by_contra hpage
    have hneg : (page - 1) * perPage < 0 := mul_neg_of_neg_of_pos (by omega) (by omega)
    omega
  · intro hpage
    exact ⟨mul_nonneg (by omega) (by omega), hperPage⟩

/-- The window of a page ends before those of later pages start. -/
theorem disjoint_pageWindow_of_lt {page other : Int} (h : page < other) :
    (pageWindow perPage page).Disjoint (pageWindow perPage other) := by
  apply Window.disjoint_of_le
  have hstep : (page + 1) * perPage ≤ other * perPage :=
    mul_le_mul_of_nonneg_right h (by omega)
  show page * perPage - perPage + perPage ≤ other * perPage - perPage
  linarith

/-- Two pages have no position in common. -/
theorem disjoint_pageWindow {page other : Int} (h : other ≠ page) :
    (pageWindow perPage page).Disjoint (pageWindow perPage other) := by
  rcases lt_or_gt_of_ne h with hlt | hgt
  · exact (disjoint_pageWindow_of_lt hperPage hlt).symm
  · exact disjoint_pageWindow_of_lt hperPage hgt

/-- The parameters of a page ask for its window, whatever else is in their body. -/
theorem window?_of_params {request : SearchRequest} {page : Int} {params : SearchParams}
    (hparams : request.params (.int perPage) (.int (page * perPage - perPage)) = .ok params) :
    params.window? = some (pageWindow perPage page) := by
  have htrue : (Value.int perPage).isTruthy = true := by
    have hne : perPage ≠ 0 := by omega
    simpa [Value.isTruthy] using hne
  obtain ⟨hfrom, hsize⟩ := window_of_params hparams
  -- A position is kept even if it is zero, and the width is not zero.
  rw [SearchRequest.truthy?, if_pos htrue] at hsize
  rw [SearchParams.window?, hfrom, hsize]
  rfl

end

/-! ### Refused or sent -/

/-- **An operation that is refused.** Without a callback and with any, it ends with the error
    before anything happens: no line is logged, nothing is asked of the backend, the callback is
    not invoked and the state is the same. -/
structure Refused (operation : SearchRequest → Program Reply) (request : SearchRequest)
    (e : Error) : Prop where
  without : ∀ {σ : Type} (surroundings : Surroundings σ) (state : σ),
    (operation request.withoutCallback).run surroundings state = ⟨.error e, [], state⟩
  withAny : ∀ (callback : Callback) {σ : Type} (surroundings : Surroundings σ) (state : σ),
    (operation (request.withCallback callback.noted)).run surroundings state =
      ⟨.error e, [], state⟩

/-- The operation that asks for one page. -/
def askPage (perPage page : Int) : SearchRequest → Program Reply :=
  fun request => paginate request (.int perPage) (.int page)

/-- **Refused or real.** A page is refused with some error, or it asks for a window of real
    positions, with a callback and without. -/
def RefusedOrReal (request : SearchRequest) (perPage page : Int) : Prop :=
  (∃ e, Refused (askPage perPage page) request e)
    ∨ ∃ params window, SameSearch (askPage perPage page) request params
      ∧ params.window? = some window ∧ window.IsReal

section

variable {operation : SearchRequest → Program Reply} {request : SearchRequest}

/-- An operation that only fails is refused. -/
theorem refused_of_fail {e : Error} (hwithout : operation request.withoutCallback = .fail e)
    (hwith : ∀ callback, operation (request.withCallback callback) = .fail e) :
    Refused operation request e where
  without surroundings state := by rw [hwithout, Program.run]
  withAny callback _ surroundings state := by rw [hwith, Program.run]

/-- An operation is the same search with one set of parameters only. -/
theorem SameSearch.unique {params other : SearchParams}
    (h : SameSearch operation request params) (hother : SameSearch operation request other) :
    params = other := by
  have hexchange := (h.sent shoeShop ()).symm.trans (hother.sent shoeShop ())
  simpa using congrArg (List.map Prod.fst) hexchange

/-- What is sent is not refused. -/
theorem SameSearch.not_refused {params : SearchParams}
    (h : SameSearch operation request params) (e : Error) : ¬ Refused operation request e := by
  intro hrefused
  have hsublist := Program.exchanges_sublist_events shoeShop (operation request.withoutCallback) ()
  rw [h.sent shoeShop (), hrefused.without shoeShop ()] at hsublist
  exact absurd hsublist.length_le (by simp)

end

section

variable {perPage : Int}

/-- Pages of less than one hit are refused. -/
theorem refused_of_lt_one (request : SearchRequest) (hperPage : perPage < 1) (page : Int) :
    Refused (askPage perPage page) request (.pageTooSmall (.int perPage)) := by
  apply refused_of_fail
  · rw [askPage, paginate_int, if_pos hperPage]
  · intro callback
    rw [askPage, paginate_int, if_pos hperPage]

/-- A page of a request without parameters is refused. -/
theorem refused_of_params {request : SearchRequest} (hperPage : 1 ≤ perPage) {page : Int}
    {e : Error}
    (hparams : request.params (.int perPage) (.int (page * perPage - perPage)) = .error e) :
    Refused (askPage perPage page) request e := by
  apply refused_of_fail
  · have hsame : request.withoutCallback.params (.int perPage)
        (.int (page * perPage - perPage)) = .error e := hparams
    rw [askPage, paginate_eq _ hperPage, performSearch, hsame]
    rfl
  · intro callback
    have hsame : (request.withCallback callback).params (.int perPage)
        (.int (page * perPage - perPage)) = .error e := hparams
    rw [askPage, paginate_eq _ hperPage, performSearch, hsame]
    rfl

/-- A page of a request with parameters asks for its window. -/
theorem sameSearch_askPage {request : SearchRequest} (hperPage : 1 ≤ perPage) {page : Int}
    {params : SearchParams}
    (hparams : request.params (.int perPage) (.int (page * perPage - perPage)) = .ok params) :
    SameSearch (askPage perPage page) request params :=
  sameSearch_of_params hparams (Reply.paged perPage) (paginate_eq _ hperPage page)
    fun _ => paginate_eq _ hperPage page

/-- A page of at least one hit is refused because of its free text, or asks for its window. -/
theorem refused_or_sameSearch (request : SearchRequest) (hperPage : 1 ≤ perPage) (page : Int) :
    (∃ e, request.freeText = .error e ∧ Refused (askPage perPage page) request e)
      ∨ ∃ params, SameSearch (askPage perPage page) request params
        ∧ params.window? = some (pageWindow perPage page) := by
  cases hparams : request.params (.int perPage) (.int (page * perPage - perPage)) with
  | error e =>
    exact .inl ⟨e, (params_eq_error_iff ..).1 hparams, refused_of_params hperPage hparams⟩
  | ok params =>
    exact .inr ⟨params, sameSearch_askPage hperPage hparams, window?_of_params hperPage hparams⟩

end

/-! ### Main result -/

/-- **Which window a page asks for.** Take any request, with a callback or without, and any two
    integers. Pages of less than one hit are refused, with the error that names the number of
    hits. For at least one hit, a page is refused only if the schema of the record type has no
    fields for the free text; else it asks for the window of its number, whatever that number is,
    and windows of different numbers have no position in common. So a page is refused or real
    exactly if it has less than one hit, or no fields for its free text, or its number is at least
    one. -/
theorem paginate_windows (request : SearchRequest) (perPage page : Int) :
    (perPage < 1 → Refused (askPage perPage page) request (.pageTooSmall (.int perPage)))
      ∧ (1 ≤ perPage →
        ((∃ e, request.freeText = .error e ∧ Refused (askPage perPage page) request e)
          ∨ ∃ params, SameSearch (askPage perPage page) request params
            ∧ params.window? = some (pageWindow perPage page))
        ∧ ∀ other, other ≠ page →
          (pageWindow perPage page).Disjoint (pageWindow perPage other))
      ∧ (RefusedOrReal request perPage page ↔
        perPage < 1 ∨ (∃ e, request.freeText = .error e) ∨ 1 ≤ page) := by
  refine ⟨fun hsmall => refused_of_lt_one request hsmall page, fun hperPage =>
    ⟨refused_or_sameSearch request hperPage page, fun other => disjoint_pageWindow hperPage⟩, ?_⟩
  -- Only whether a page is refused, or asks for hits that exist, is left.
  rcases lt_or_ge perPage 1 with hsmall | hperPage
  · exact ⟨fun _ => .inl hsmall, fun _ => .inl ⟨_, refused_of_lt_one request hsmall page⟩⟩
  rcases refused_or_sameSearch request hperPage page with ⟨e, hfree, hrefused⟩ |
    ⟨params, hsame, hwindow⟩
  · exact ⟨fun _ => .inr (.inl ⟨e, hfree⟩), fun _ => .inl ⟨e, hrefused⟩⟩
  constructor
  · rintro (⟨e, hrefused⟩ | ⟨other, window, hother, hasked, hreal⟩)
    · exact absurd hrefused (hsame.not_refused e)
    · -- The parameters are those of the page, so the window is.
      rw [← hsame.unique hother, hwindow] at hasked
      cases hasked
      exact .inr (.inr ((isReal_pageWindow_iff hperPage page).1 hreal))
  · rintro (hsmall | ⟨e, hfree⟩ | hpage)
    · omega
    · have hparams := (params_eq_error_iff request (.int perPage)
        (.int (page * perPage - perPage)) e).2 hfree
      exact .inl ⟨e, refused_of_params hperPage hparams⟩
    · exact .inr ⟨params, _, hsame, hwindow, (isReal_pageWindow_iff hperPage page).2 hpage⟩

/-- On pages of no shoes nothing is asked for. On pages of two, the second page of red shoes asks
    for the positions two and three, which are real and none of those of the first. -/
theorem redShoes_second_page :
    (0 : Int) < 1 ∧ Refused (askPage 0 2) redShoes (.pageTooSmall (.int 0))
      ∧ (1 : Int) ≤ 2
      ∧ (∃ params, SameSearch (askPage 2 2) redShoes params ∧ params.window? = some ⟨2, 2⟩)
      ∧ (1 : Int) ≠ 2 ∧ Window.Disjoint ⟨2, 2⟩ ⟨0, 2⟩
      ∧ RefusedOrReal redShoes 2 2 := by
  obtain ⟨-, hasked, hreal⟩ := paginate_windows redShoes 2 2
  obtain ⟨hsent, hdisjoint⟩ := hasked (by decide)
  refine ⟨by decide, (paginate_windows redShoes 0 2).1 (by decide), by decide, ?_, by decide,
    hdisjoint 1 (by decide), hreal.2 (.inr (.inr (by decide)))⟩
  rcases hsent with ⟨e, hfree, -⟩ | hsent
  · cases hfree
  · exact hsent

/-- The page with the number zero is neither refused nor real: on pages of two, red shoes are asked
    for from the position minus two on, without a callback and with one. -/
theorem redShoes_page_zero :
    ¬ RefusedOrReal redShoes 2 0
      ∧ ∃ params, SameSearch (askPage 2 0) redShoes params ∧ params.window? = some ⟨-2, 2⟩ := by
  have hparams : ∃ params, redShoes.params (.int 2) (.int (0 * 2 - 2)) = .ok params := ⟨_, rfl⟩
  obtain ⟨params, hparams⟩ := hparams
  have hsame : SameSearch (askPage 2 0) redShoes params :=
    sameSearch_askPage (by decide) hparams
  have hwindow : params.window? = some ⟨-2, 2⟩ := window?_of_params (by decide) hparams
  refine ⟨?_, params, hsame, hwindow⟩
  rintro (⟨e, hrefused⟩ | ⟨other, window, hother, hasked, hreal⟩)
  · exact hsame.not_refused e hrefused
  · rw [← hsame.unique hother, hwindow] at hasked
    cases hasked
    exact absurd hreal.1 (by decide)

end RecordSearch
