import EstateSearch.Json.Fields
import EstateSearch.Json.Parser
import EstateSearch.Json.Printer
import EstateSearch.Record

/-!
# The JSON form of records

Every field is written, unset ones as null. On reading, activity may be left out but not null.

Source: `search/src/record`.
-/

set_option autoImplicit false

namespace EstateSearch

open Json

namespace Property

def fieldNames : List String :=
  ["id", "reference", "title", "description", "address", "city", "country", "organizationId",
    "assignedUserId", "teamId", "status", "type", "price", "surface", "bedrooms", "bathrooms",
    "active", "createdAt"]

def toJson (p : Property) : Json :=
  ofFields
    [("id", ofOption ofInt64 p.id),
      ("reference", ofOption ofText p.reference),
      ("title", ofOption ofText p.title),
      ("description", ofOption ofText p.description),
      ("address", ofOption ofText p.address),
      ("city", ofOption ofText p.city),
      ("country", ofOption ofText p.country),
      ("organizationId", ofOption ofInt64 p.organizationId),
      ("assignedUserId", ofOption ofInt64 p.assignedUserId),
      ("teamId", ofOption ofInt64 p.teamId),
      ("status", ofOption ofText p.status),
      ("type", ofOption ofText p.kind),
      ("price", ofOption ofBinary64 p.price),
      ("surface", ofOption ofBinary64 p.surface),
      ("bedrooms", ofOption ofInt64 p.bedrooms),
      ("bathrooms", ofOption ofInt64 p.bathrooms),
      ("active", boolean p.active),
      ("createdAt", ofOption ofInstant p.createdAt)]

def ofJson? (value : Json) : Option Property := do
  let fields ← fields? fieldNames value
  let id ← fields.optional? "id" readInteger?
  let reference ← fields.optional? "reference" readText?
  let title ← fields.optional? "title" readText?
  let description ← fields.optional? "description" readText?
  let address ← fields.optional? "address" readText?
  let city ← fields.optional? "city" readText?
  let country ← fields.optional? "country" readText?
  let organizationId ← fields.optional? "organizationId" readInteger?
  let assignedUserId ← fields.optional? "assignedUserId" readInteger?
  let teamId ← fields.optional? "teamId" readInteger?
  let status ← fields.optional? "status" readText?
  let kind ← fields.optional? "type" readText?
  let price ← fields.optional? "price" readNumber?
  let surface ← fields.optional? "surface" readNumber?
  let bedrooms ← fields.optional? "bedrooms" readInteger?
  let bathrooms ← fields.optional? "bathrooms" readInteger?
  let active ← fields.withDefault? "active" true readBoolean?
  let createdAt ← fields.optional? "createdAt" readInstant?
  return { id, reference, title, description, address, city, country, organizationId,
           assignedUserId, teamId, status, kind, price, surface, bedrooms, bathrooms, active,
           createdAt }

def ofString? (text : String) : Option Property := do
  let value ← Json.ofString? text
  ofJson? value

end Property

namespace User

def fieldNames : List String :=
  ["id", "organizationId", "firstName", "lastName", "email", "role", "active", "createdAt"]

def toJson (u : User) : Json :=
  ofFields
    [("id", ofOption ofInt64 u.id),
      ("organizationId", ofOption ofInt64 u.organizationId),
      ("firstName", ofOption ofText u.firstName),
      ("lastName", ofOption ofText u.lastName),
      ("email", ofOption ofText u.email),
      ("role", ofOption ofText u.role),
      ("active", boolean u.active),
      ("createdAt", ofOption ofInstant u.createdAt)]

def ofJson? (value : Json) : Option User := do
  let fields ← fields? fieldNames value
  let id ← fields.optional? "id" readInteger?
  let organizationId ← fields.optional? "organizationId" readInteger?
  let firstName ← fields.optional? "firstName" readText?
  let lastName ← fields.optional? "lastName" readText?
  let email ← fields.optional? "email" readText?
  let role ← fields.optional? "role" readText?
  let active ← fields.withDefault? "active" true readBoolean?
  let createdAt ← fields.optional? "createdAt" readInstant?
  return { id, organizationId, firstName, lastName, email, role, active, createdAt }

def ofString? (text : String) : Option User := do
  let value ← Json.ofString? text
  ofJson? value

end User

def recordsOfString? {α : Type} (ofJson? : Json → Option α) (text : String) :
    Option (List α) := do
  match ← Json.ofString? text with
  | .array items => items.mapM ofJson?
  | _ => none

end EstateSearch
