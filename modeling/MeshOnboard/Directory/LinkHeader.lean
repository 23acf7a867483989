import MeshOnboard.Text.Blank
import MeshOnboard.Text.Numeral
import MeshOnboard.Text.Pieces

/-!
# Links to further pages

A link header is a list of entries between commas.  An entry is a target in angle brackets followed
by parameters, with semicolons between them.  `LinkHeader.nextPage?` is the number that the query of
a target gives under the key `page`, for the first entry with relation `next` that gives one.
-/

namespace MeshOnboard.LinkHeader

open MeshOnboard.Text

/-- The parameters that say an entry leads to the next page. -/
def nextRelations : List (List Char) := ["rel=\"next\"".toList, "rel=next".toList]

/-- Whether one of the parameters says that the entry leads to the next page. -/
def leadsOn (parameters : List (List Char)) : Bool :=
  parameters.any fun p => nextRelations.contains (strip isBlank p)

/-- The target without blanks and angle brackets around it. -/
def target (part : List Char) : List Char :=
  stripEnd (· = '>') ((strip isBlank part).dropWhile (· = '<'))

/-- The keys and values of a query, without the parts that have no equals sign. -/
def pairs (query : List Char) : List (List Char × List Char) :=
  (pieces '&' query).filterMap (cutAt? '=')

/-- The number that the first `page` key of a target's query stands for. -/
def page? (target : List Char) : Option UInt32 := do
  let (_, query) ← cutAt? '?' target
  let value ← (pairs query).lookup "page".toList
  let n ← Numeral.count? UInt32.size value
  return n.toUInt32

/-- The page that an entry leads on to. -/
def entryPage? (entry : List Char) : Option UInt32 :=
  match pieces ';' entry with
  | [] => none
  | part :: parameters => if leadsOn parameters then page? (target part) else none

/-- The page that a link header leads on to. -/
def nextPage? (link : List Char) : Option UInt32 :=
  (pieces ',' link).findSome? entryPage?

end MeshOnboard.LinkHeader
