import LeadScreen.Lead.Record
import LeadScreen.Lead.Verdict
import LeadScreen.Number.Binary64
import LeadScreen.Requisition.Read
import LeadScreen.Rule.Failure
import LeadScreen.Text.Token

set_option autoImplicit false

/-!
# The title rule

The title of a lead has to cover the tokens that its requisition asks for: of the job levels, of
the keywords, and of both together, each to a share of its own. The three shares are checked in
this order, and the first that falls short makes the verdict.
-/

namespace LeadScreen.Rule

/-- How much of a title is asked for. -/
structure TitleDemand where
  /-- The share of all tokens. -/
  total : Binary64 := .ofRatio false 3 4
  /-- The share of the tokens of job levels. -/
  levels : Binary64 := .ofRatio false 1 1
  /-- The share of the tokens of keywords. -/
  keywords : Binary64 := .ofRatio false 3 10
  /-- Whether an empty title is invalid. -/
  titleRequired : Bool := true
  /-- How many missing tokens a comment lists; a negative number leaves out that many at the
  end. -/
  listed : Int := 6
deriving DecidableEq, Repr

/-- The tokens of values, each once. -/
def tokensOf (values : List Text) : List Text :=
  distinct (values.flatMap Text.tokens)

/-! ## Coverage -/

/-- Which of the tokens asked for are present, and the share that these make up. -/
structure Coverage where
  ratio : Binary64
  matched : List Text := []
  missing : List Text := []
deriving DecidableEq, Repr

/-- The coverage of tokens asked for. Where nothing is asked for, all of it is covered. -/
def coverage (required present : List Text) : Coverage :=
  let matched := required.filter fun token => present.elem token
  if required.isEmpty then ⟨.ofRatio false 1 1, [], []⟩
  else
    ⟨.ofRatio false matched.length required.length, matched,
      required.filter fun token => !present.elem token⟩

/-- A share in whole percent, a half rounded up. -/
def percent (ratio : Binary64) : Int :=
  ((ratio.timesNat 100).plusHalf.truncate?).getD 0

/-! ## The verdict -/

def firstListed (limit : Int) (tokens : List Text) : List Text :=
  if 0 ≤ limit then tokens.take limit.toNat else tokens.take (tokens.length - limit.natAbs)

def listing (limit : Int) (tokens : List Text) : Text :=
  Text.joinWith ", " (firstListed limit tokens)

/-- The verdict on a title from its tokens and from those that are asked for. -/
def titleVerdict (demand : TitleDemand) (levels keywords present : List Text) : Verdict :=
  let all := distinct (levels ++ keywords)
  let byLevel := coverage levels present
  let byKeyword := coverage keywords present
  let total := coverage all present
  if all.isEmpty then .valid
  else if !levels.isEmpty && byLevel.ratio.lt demand.levels then
    .invalid ("Title missing level terms: ".toList ++ listing demand.listed byLevel.missing)
  else if !keywords.isEmpty && byKeyword.ratio.lt demand.keywords then
    .invalid ("Title missing keyword terms: ".toList ++ listing demand.listed byKeyword.missing)
  else if total.ratio.lt demand.total then
    .invalid ("Title similarity too low (".toList ++ intText (percent total.ratio)
      ++ "%). Missing: ".toList ++ listing demand.listed total.missing)
  else .valid

/-- The verdict of the title rule. A title that has to be there and has no token is found missing
before the requisition is read. -/
def title (demand : TitleDemand) (lead : Lead) : Except Failure Verdict :=
  if demand.titleRequired && (Text.plain lead.title).isEmpty then .ok (.invalid "Missing title")
  else
    match Requisition.read lead.req with
    | .error reason => .error (.comments reason)
    | .ok requisition =>
      .ok (titleVerdict demand
        (tokensOf (requisition.comments.values .titles "job_levels"))
        (tokensOf (requisition.comments.values .titles "keywords"))
        (Text.tokens (Text.plain lead.title)))

end LeadScreen.Rule
