import TableReach.Event
import TableReach.Matching.Tier

/-!
# Matching statements with endpoints

A matcher tries its tiers in order.  The first tier that holds claims the
statement, and each of its tables becomes a link of the endpoint.
-/

namespace TableReach

/-- The tiers that are tried, in order. -/
structure Matcher where
  /-- The tiers. -/
  tiers : List Tier
  /-- Which classes make up the data-access layer. -/
  convention : Convention

/-- A statement and the tier that claimed it. -/
structure Claimed where
  /-- The statement. -/
  mapping : Mapping
  /-- The tier. -/
  tier : Tier

/-- What an endpoint was matched with. -/
structure Match where
  /-- The endpoint. -/
  endpoint : Endpoint
  /-- The statements that a tier claimed, in order. -/
  claims : List Claimed

namespace Match

/-- The links of one statement: one for each of its tables. -/
def linksOf (endpoint : Endpoint) (mapping : Mapping) : List Link :=
  mapping.tables.eraseDups.filterMap fun table => Link.derive? endpoint table mapping.operation

/-- The links of an endpoint. -/
def links (found : Match) : List Link :=
  found.claims.flatMap fun claim => linksOf found.endpoint claim.mapping

/-- How many statements each tier claimed, in the order of the first ones. -/
def tierHits (found : Match) : List (Tier × Nat) :=
  let tiers := found.claims.map Claimed.tier
  tiers.eraseDups.map fun tier => (tier, tiers.count tier)

end Match

namespace Matcher

/-- The matcher without the tiers of these names, which may be written in any case. -/
def without (disabled : List String) (convention : Convention) : Matcher :=
  { tiers := Tier.all.filter fun tier =>
      !disabled.any fun name => Text.lowerAscii name == Text.lowerAscii tier.name
    convention := convention }

/-- The matcher with every tier and the usual convention. -/
def usual : Matcher :=
  without [] Convention.usual

/-- The first tier that holds. -/
def tierOf? (matcher : Matcher) (mapping : Mapping) (reachable : List MethodId) : Option Tier :=
  matcher.tiers.find? fun tier => tier.holds matcher.convention mapping reachable

/-- The statements that a tier claims. -/
def claims
    (matcher : Matcher)
    (mappings : List Mapping)
    (reachable : List MethodId) : List Claimed :=
  mappings.filterMap fun mapping =>
    (matcher.tierOf? mapping reachable).map fun tier => { mapping := mapping, tier := tier }

/-- The event of a claimed statement. -/
def claimEvent (endpoint : Endpoint) (claim : Claimed) : Event :=
  { level := .trace
    message := "mapping matched"
    fields :=
      [("endpoint", endpoint.display), ("mapping", claim.mapping.qualifiedId),
        ("tier", "\"" ++ claim.tier.name ++ "\"")] }

/-- Match an endpoint that reaches these methods with statements. -/
def run
    (matcher : Matcher)
    (endpoint : Endpoint)
    (mappings : List Mapping)
    (reachable : List MethodId) : Logged Match := do
  if reachable.isEmpty then return { endpoint := endpoint, claims := [] }
  let found : Match := { endpoint := endpoint, claims := matcher.claims mappings reachable }
  Logged.leaveAll (found.claims.map (claimEvent endpoint))
  Logged.leave .debug "endpoint matched"
    [("endpoint", endpoint.display), ("terminals", toString reachable.length),
      ("links", toString found.links.length)]
  return found

end Matcher
end TableReach
