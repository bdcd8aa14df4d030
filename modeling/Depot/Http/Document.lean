import Depot.Http.Endpoint

namespace Depot.Http

/-- The bodies that are described by name. -/
inductive Shape where
  | flags
  | session
  | credentials
  | registration
  | memberRegistration
  | organizationRegistration
  deriving Repr, DecidableEq, Inhabited

namespace Shape

def all : List Shape :=
  [.flags, .session, .credentials, .registration, .memberRegistration, .organizationRegistration]

def name : Shape → String
  | flags => "AutherFlags"
  | session => "AuthResponse"
  | credentials => "LoginPayload"
  | registration => "RegisterPayload"
  | memberRegistration => "RegisterMemberPayload"
  | organizationRegistration => "RegisterOrganizationPayload"

def reference (s : Shape) : Json := .obj [("$ref", .str ("#/components/schemas/" ++ s.name))]

end Shape

/-- The description of a plain value; what may be missing may also be null. -/
def describeType : Json.FieldType → Json
  | .text => .obj [("type", .str "string")]
  | .bool => .obj [("type", .str "boolean")]
  | .int64 => .obj [("type", .str "integer"), ("format", .str "int64")]
  | .nat64 => .obj [("type", .str "integer"), ("format", .str "int64"), ("minimum", .int 0)]
  | .optional t =>
    match describeType t with
    | .obj (("type", type) :: rest) => .obj (("type", .arr [type, .str "null"]) :: rest)
    | j => j

def describeObject (properties : List (String × Json)) (required : List String) : Json :=
  .obj [("type", .str "object"), ("required", Json.ofList .str required),
    ("properties", .obj properties)]

def describeFields (fields : Json.Fields) : Json :=
  describeObject (fields.map fun f => (f.1, describeType f.2))
    ((fields.filter (!·.2.isOptional)).map (·.1))

def flagFields : Json.Fields :=
  [("id", .int64), ("isAdmin", .bool), ("isMember", .bool), ("isCustomer", .bool),
    ("organizationId", .optional .int64), ("roleId", .optional .int64)]

def Shape.describe : Shape → Json
  | flags => describeFields flagFields
  | session =>
    describeObject [("auther", reference flags), ("token", describeType .text)] ["auther", "token"]
  | credentials => describeFields Credentials.fields
  | registration => describeFields Registration.fields
  | memberRegistration => describeFields MemberRegistration.fields
  | organizationRegistration => describeFields OrganizationRegistration.fields

/-- One answer that a route may give. -/
structure Outcome where
  status : Nat
  description : String
  content : Option Json
  deriving Inhabited

/-- One route as it is described. -/
structure RouteDescription where
  endpoint : Endpoint
  id : String
  body : Option Shape
  outcomes : List Outcome
  needsToken : Bool
  deriving Inhabited

def loggedIn : Outcome :=
  ⟨202, "Login realizado; cookie `jwt` definido", some (Shape.reference .session)⟩

def unknownUser : Outcome := ⟨404, "Usuário não encontrado para este tipo", none⟩

def describedRoutes : List RouteDescription :=
  [⟨.permissions, "permissions", none,
      [⟨200, "Catálogo de permissões, na ordem do registro",
        some (.obj [("type", .str "array"), ("items", describeType .text)])⟩], false⟩,
    ⟨.login .admin, "admin_login", some .credentials,
      [loggedIn, ⟨400, "Senha incorreta ou dados inválidos", none⟩, unknownUser], false⟩,
    ⟨.login .member, "member_login", some .credentials, [loggedIn, unknownUser], false⟩,
    ⟨.login .customer, "customer_login", some .credentials, [loggedIn, unknownUser], false⟩,
    ⟨.registerAdmin, "register_admin", some .registration,
      [⟨201, "Administrador criado", none⟩, ⟨401, "Apenas administradores", none⟩], true⟩,
    ⟨.registerMember, "register_member", some .memberRegistration,
      [⟨201, "Membro criado", none⟩, ⟨401, "Sem a permissão Create User", none⟩], true⟩,
    ⟨.registerCustomer, "register_customer", some .registration,
      [⟨201, "Cliente e perfil criados", none⟩,
        ⟨400, "E-mail ou telefone já cadastrado", none⟩], false⟩,
    ⟨.registerOrganization, "register_organization", some .organizationRegistration,
      [⟨201, "Organização, cargo de administrador e membro criados", none⟩,
        ⟨400, "Dados inválidos ou já cadastrados", none⟩], false⟩,
    ⟨.logout, "logout", none, [⟨200, "Cookie `jwt` removido", none⟩], false⟩]

def jsonContent (description : Json) : Json :=
  .obj [("application/json", .obj [("schema", description)])]

def Outcome.describe (o : Outcome) : String × Json :=
  (toString o.status, .obj (("description", .str o.description) ::
    (o.content.map fun c => ("content", jsonContent c)).toList))

def tokenScheme : String := "api_jwt"

def RouteDescription.describe (o : RouteDescription) : String × Json :=
  let requestBody := o.body.map fun b =>
    ("requestBody", Json.obj [("content", jsonContent b.reference), ("required", .bool true)])
  let security := if o.needsToken then [("security", Json.arr [.obj [(tokenScheme, .arr [])]])] else []
  let members := [("tags", .arr [.str "Auth"]), ("operationId", .str o.id)] ++ requestBody.toList ++
    [("responses", .obj (o.outcomes.map Outcome.describe))] ++ security
  (o.endpoint.path, .obj [(if o.endpoint.isPost then "post" else "get", .obj members)])

def document : Json :=
  .obj [("openapi", .str "3.1.0"),
    ("info", .obj [("title", .str "palletrack"), ("description", .str ""),
      ("license", .obj [("name", .str "")]), ("version", .str "0.1.0")]),
    ("paths", .obj (describedRoutes.map RouteDescription.describe)),
    ("components", .obj [("schemas", .obj (Shape.all.map fun s => (s.name, s.describe))),
      ("securitySchemes", .obj [(tokenScheme,
        .obj [("type", .str "http"), ("scheme", .str "bearer")])])]),
    ("tags", .arr [.obj [("name", .str "Auth"), ("description",
      .str "Autenticação e Registro (o restante da API é GraphQL em /api/gql)")]])]

def consolePage : String :=
  "<!DOCTYPE html><html><head><title>GraphiQL</title></head><body><form method=\"post\" action=\"" ++
    Endpoint.query.path ++ "\"><textarea name=\"query\"></textarea><button>Run</button></form></body></html>"

end Depot.Http
