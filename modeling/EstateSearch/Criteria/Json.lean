import EstateSearch.Criteria
import EstateSearch.Json.Fields
import EstateSearch.Json.Parser
import EstateSearch.Json.Printer

/-!
# The JSON form of criteria

Source: `search/src/criteria`.
-/

set_option autoImplicit false

namespace EstateSearch

open Json

namespace PropertyCriteria

def fieldNames : List String :=
  ["organizationId", "assignedUserId", "teamId", "status", "type", "city", "country", "priceMin",
    "priceMax", "surfaceMin", "surfaceMax", "bedrooms", "bathrooms", "active", "createdAfter",
    "createdBefore"]

def toJson (c : PropertyCriteria) : Json :=
  ofFields
    [("organizationId", ofOption ofInt64 c.organizationId),
      ("assignedUserId", ofOption ofInt64 c.assignedUserId),
      ("teamId", ofOption ofInt64 c.teamId),
      ("status", ofOption ofText c.status),
      ("type", ofOption ofText c.kind),
      ("city", ofOption ofText c.city),
      ("country", ofOption ofText c.country),
      ("priceMin", ofOption ofBinary64 c.priceMin),
      ("priceMax", ofOption ofBinary64 c.priceMax),
      ("surfaceMin", ofOption ofBinary64 c.surfaceMin),
      ("surfaceMax", ofOption ofBinary64 c.surfaceMax),
      ("bedrooms", ofOption ofInt64 c.bedrooms),
      ("bathrooms", ofOption ofInt64 c.bathrooms),
      ("active", ofOption boolean c.active),
      ("createdAfter", ofOption ofInstant c.createdAfter),
      ("createdBefore", ofOption ofInstant c.createdBefore)]

def ofJson? (value : Json) : Option PropertyCriteria := do
  let fields ← fields? fieldNames value
  let organizationId ← fields.optional? "organizationId" readInteger?
  let assignedUserId ← fields.optional? "assignedUserId" readInteger?
  let teamId ← fields.optional? "teamId" readInteger?
  let status ← fields.optional? "status" readText?
  let kind ← fields.optional? "type" readText?
  let city ← fields.optional? "city" readText?
  let country ← fields.optional? "country" readText?
  let priceMin ← fields.optional? "priceMin" readNumber?
  let priceMax ← fields.optional? "priceMax" readNumber?
  let surfaceMin ← fields.optional? "surfaceMin" readNumber?
  let surfaceMax ← fields.optional? "surfaceMax" readNumber?
  let bedrooms ← fields.optional? "bedrooms" readInteger?
  let bathrooms ← fields.optional? "bathrooms" readInteger?
  let active ← fields.optional? "active" readBoolean?
  let createdAfter ← fields.optional? "createdAfter" readInstant?
  let createdBefore ← fields.optional? "createdBefore" readInstant?
  return { organizationId, assignedUserId, teamId, status, kind, city, country, priceMin, priceMax,
           surfaceMin, surfaceMax, bedrooms, bathrooms, active, createdAfter, createdBefore }

def ofString? (text : String) : Option PropertyCriteria := do
  let value ← Json.ofString? text
  ofJson? value

end PropertyCriteria

namespace UserCriteria

def fieldNames : List String := ["organizationId", "role", "active"]

def toJson (c : UserCriteria) : Json :=
  ofFields
    [("organizationId", ofOption ofInt64 c.organizationId),
      ("role", ofOption ofText c.role),
      ("active", ofOption boolean c.active)]

def ofJson? (value : Json) : Option UserCriteria := do
  let fields ← fields? fieldNames value
  let organizationId ← fields.optional? "organizationId" readInteger?
  let role ← fields.optional? "role" readText?
  let active ← fields.optional? "active" readBoolean?
  return { organizationId, role, active }

def ofString? (text : String) : Option UserCriteria := do
  let value ← Json.ofString? text
  ofJson? value

end UserCriteria

end EstateSearch
