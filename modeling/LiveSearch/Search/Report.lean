import LiveSearch.Item.Exchange
import LiveSearch.Search
import LiveSearch.Single.Decimal

/-!
# Reports of a search

* `SearchFindings.report` – **the hits for a reader**: two lines for each hit, with its rank, the
  tier and the score, the abbreviated reference and the title, and below them where it comes from.
* `SearchFindings.toJson` – the same for a program.
-/

namespace LiveSearch

open Text

/-- A text in a field of at least `width` characters, at the right end. -/
def alignedRight (width : Nat) (s : String) : String :=
  String.ofList (s.toList.leftpad width ' ')

/-- A text in a field of at least `width` characters, at the left end. -/
def alignedLeft (width : Nat) (s : String) : String :=
  String.ofList (s.toList.rightpad width ' ')

namespace Hit

/-- The first line of a hit, with its rank. -/
def headline (rank : Nat) (h : Hit) : String :=
  alignedRight 3 (Decimal.render rank) ++ ". [" ++ alignedLeft 6 h.tier.name ++ "] " ++
    alignedRight 7 h.score.fixed ++ " " ++ h.ref.display ++ " " ++ h.attributes.title ++ "\n"

/-- The author as the last part of the second line. -/
def byline (h : Hit) : String :=
  if h.attributes.author.isEmpty then "" else " by " ++ h.attributes.author

/-- The second line of a hit. -/
def originLine (h : Hit) : String :=
  "     " ++ h.attributes.feed ++ " (" ++ h.state.name ++ ")" ++ h.byline ++ "\n"

/-- A score as JSON, or null if it is not finite. -/
def scoreToJson (score : Single) : Json :=
  match score.shortest? with
  | some text => .number text
  | none => .null

/-- The item of a hit as a member, if it is there. -/
def itemMembers (h : Hit) : List (String × Json) :=
  h.item.toList.map fun item => ("item", item.toJson)

/-- A hit as JSON. -/
def toJson (h : Hit) : Json :=
  .record
    ([("item_ref", .natural h.ref.value.toNat),
      ("score", scoreToJson h.score),
      ("relevance", .ofString h.tier.name),
      ("state", h.state.toJson),
      ("title", .ofString h.attributes.title),
      ("author", .ofString h.attributes.author),
      ("feed", .ofString h.attributes.feed),
      ("recent_date", .natural h.attributes.recentDate.toNat)] ++ h.itemMembers)

end Hit

namespace SearchFindings

/-- The lines of hits, the first of which has a given rank. -/
def reportFrom (rank : Nat) : List Hit → String
  | [] => ""
  | h :: rest => h.headline rank ++ h.originLine ++ reportFrom (rank + 1) rest

/-- **The hits for a reader.** -/
def report (f : SearchFindings) : String :=
  if f.hits.isEmpty then "No results found.\n"
  else
    reportFrom 1 f.hits ++ "\n" ++ Decimal.render f.hits.length ++ " of " ++
      Decimal.render f.total ++ " result(s)\n"

/-- What was found as JSON. -/
def toJson (f : SearchFindings) : Json :=
  .record [("total", .natural f.total), ("hits", .array (f.hits.map Hit.toJson))]

end SearchFindings

end LiveSearch
