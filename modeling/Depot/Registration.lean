import Depot.Error
import Depot.Json.Decode
import Depot.Principal
import Depot.Text.EmailAddress

namespace Depot

structure Credentials where
  email : Option String
  phone : Option String
  password : String
  deriving Repr, DecidableEq, Inhabited

structure Registration where
  firstName : String
  lastName : String
  email : String
  phone : String
  password : String
  deriving Repr, DecidableEq, Inhabited

structure MemberRegistration where
  account : Registration
  organizationId : Option Id
  roleId : Id
  deriving Repr, DecidableEq, Inhabited

structure OrganizationRegistration where
  name : String
  website : Option String
  owner : Registration
  deriving Repr, DecidableEq, Inhabited

namespace FieldProblem

def atLeast (n : Nat) (field message value : String) : List FieldProblem :=
  if n ≤ value.length then [] else [⟨field, "length", some message⟩]

def mailbox (field value : String) : List FieldProblem :=
  if Text.isEmailAddress value then [] else [⟨field, "email", some "Email is invalid"⟩]

end FieldProblem

def Error.ofProblems : List FieldProblem → Except Error Unit
  | [] => .ok ()
  | problems => .error (.invalid problems)

namespace Credentials

def fields : Json.Fields :=
  [("email", .optional .text), ("phone", .optional .text), ("password", .text)]

def ofValues? : List Json → Option Credentials
  | [email, phone, .str password] => some ⟨email.str?, phone.str?, password⟩
  | _ => none

def problems (c : Credentials) : List FieldProblem :=
  (c.email.map (FieldProblem.mailbox "email")).getD [] ++
    FieldProblem.atLeast 1 "password" "Password is required" c.password

end Credentials

namespace Registration

def fields : Json.Fields :=
  [("firstName", .text), ("lastName", .text), ("email", .text), ("phone", .text),
    ("password", .text)]

def ofValues? : List Json → Option Registration
  | [.str firstName, .str lastName, .str email, .str phone, .str password] =>
    some ⟨firstName, lastName, email, phone, password⟩
  | _ => none

def problems (r : Registration) : List FieldProblem :=
  FieldProblem.atLeast 1 "first_name" "First Name is required" r.firstName ++
  FieldProblem.atLeast 1 "last_name" "Last Name is required" r.lastName ++
  FieldProblem.mailbox "email" r.email ++
  FieldProblem.atLeast 1 "phone" "Phone is required" r.phone ++
  FieldProblem.atLeast 6 "password" "Password must have at least 6 characters" r.password

end Registration

namespace MemberRegistration

def fields : Json.Fields :=
  Registration.fields ++ [("organizationId", .optional .int64), ("roleId", .int64)]

def ofValues? : List Json → Option MemberRegistration
  | [firstName, lastName, email, phone, password, organization, .int role] =>
    (Registration.ofValues? [firstName, lastName, email, phone, password]).map fun account =>
      ⟨account, organization.int?, role⟩
  | _ => none

def problems (r : MemberRegistration) : List FieldProblem :=
  r.account.problems ++
    if 1 ≤ r.roleId then [] else [⟨"role_id", "range", some "Role is required"⟩]

end MemberRegistration

namespace OrganizationRegistration

def fields : Json.Fields :=
  [("orgName", .text), ("website", .optional .text)] ++ Registration.fields

def ofValues? : List Json → Option OrganizationRegistration
  | .str name :: website :: rest =>
    (Registration.ofValues? rest).map fun owner => ⟨name, website.str?, owner⟩
  | _ => none

def problems (r : OrganizationRegistration) : List FieldProblem :=
  FieldProblem.atLeast 1 "org_name" "Organization Name is required" r.name ++ r.owner.problems

end OrganizationRegistration

end Depot
