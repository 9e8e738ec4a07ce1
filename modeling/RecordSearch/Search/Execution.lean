import RecordSearch.Search.Paging
import RecordSearch.Search.Request

namespace RecordSearch

/-!
# Searching

A request is sent with its parameters, or its callback is given the own client with the same
parameters, and the response is reduced to results.

* `search`: at most as many hits as the limit of the request;
* `paginate`: one page, the first having the number one, with the number of pages.
-/

/-- Sends a request, or runs its callback. -/
def performSearch (request : SearchRequest) (size offset : Value) : Program Reply := do
  let params ← Program.ofExcept (request.params size offset)
  match request.callback with
  -- The callback takes the place of the request: here nothing is sent, logged or translated.
  | some callback => callback .own params
  | none =>
    Program.log (.searching params.index)
    .ask (.search params) fun
      | .error failure =>
        Program.failWith failure (.searchFailed params.index.text failure)
      | .ok response => .results <$> Program.ofExcept (SearchResults.ofResponse response)

/-- Runs a request. -/
def search (request : SearchRequest) : Program Reply :=
  performSearch request (SearchRequest.limitValue request.limit) .null

/-- Results with the number of pages that hold their hits. -/
def withPages (results : SearchResults) (perPage : Amount) : Except Error SearchResults := do
  let pages ← pageCount results.total perPage
  return { results with pages := some pages }

/-- Runs a request for one page of the given number of hits. The value is what the number is
    given by, and what is asked for. -/
def searchPage (request : SearchRequest) (perPage : Value) (amount : Amount) (page : Value) :
    Program Reply := do
  let page ← Program.ofExcept (pageNumber amount page)
  let offset ← Program.ofExcept (pageOffset amount page)
  -- Results get their number of pages wherever they come from, also from a callback.
  match ← performSearch request perPage offset.toValue with
  | .results results => .results <$> Program.ofExcept (withPages results amount)
  | .value v => return .value v

/-- Runs a request for one page. -/
def paginate (request : SearchRequest) (perPage page : Value) : Program Reply :=
  match Amount.ofValue? perPage with
  | none => .fail .wrongType
  | some amount =>
    if amount.isBelowOne then .fail (.pageTooSmall perPage)
    else searchPage request perPage amount page

/-- With integers a page is the window of `perPage` hits that starts at
    `page * perPage - perPage`. -/
theorem paginate_int (request : SearchRequest) (perPage page : Int) :
    paginate request (.int perPage) (.int page) =
      if perPage < 1 then .fail (.pageTooSmall (.int perPage))
      else do
        match ← performSearch request (.int perPage) (.int (page * perPage - perPage)) with
        | .results results => .results <$> Program.ofExcept (withPages results (.int perPage))
        | .value v => return .value v := by
  by_cases h : perPage < 1 <;>
    simp [paginate, Amount.ofValue?, Amount.isBelowOne, h, searchPage, pageNumber,
      Program.ofExcept, Amount.toValue]

end RecordSearch
