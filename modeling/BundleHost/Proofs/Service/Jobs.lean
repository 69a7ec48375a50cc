import BundleHost.Proofs.Service.Responses

/-! The service as jobs that run step by step. The identifier of a request is kept in a variable of
which every job has a copy of its own: a job that a layer starts for what is inside of it gets the
value that the variable has at that moment, and what it publishes is not seen outside. A part of the
service that stands in a job of its own can only find the identifier by looking at its copy. Done
without interruption, the jobs do what the layers do. -/

namespace BundleHost

/-- What is still to do, up to a response or a failure. -/
inductive Job
  | done (result : Except Failure Response)
  | publish (id : Text) (rest : Job)
  /-- Looks at the variable. -/
  | look (rest : Text → Job)
  | write (record : Log.Record) (rest : Job)
  | callNext (child : Job) (rest : Except Failure Response → Job)

/-- The same exchange after other records. -/
def Exchange.after (records : List Log.Record) (e : Exchange) : Exchange :=
  { e with records := records ++ e.records }

@[simp] theorem Exchange.after_nil (e : Exchange) : e.after [] = e := rfl

theorem Exchange.after_append (a b : List Log.Record) (e : Exchange) :
    e.after (a ++ b) = (e.after b).after a := by
  simp [after]

/-- An exchange is its result after its records, under its identifier. -/
theorem Exchange.after_records {e : Exchange} {id : Text} (h : e.requestId = id) :
    ({ requestId := id, result := e.result } : Exchange).after e.records = e := by
  simp [after, ← h]

namespace Job

/-- A job that is done without interruption, from a value of its variable on. -/
def run : Job → Text → Exchange
  | done result, id => { requestId := id, result }
  | publish id rest, _ => rest.run id
  | look rest, id => (rest id).run id
  | write record rest, id => (rest.run id).after [record]
  | callNext child rest, id =>
    ((rest (child.run id).result).run id).after (child.run id).records

def steps : Job → Text → Nat
  | done _, _ => 1
  | publish id rest, _ => rest.steps id + 1
  | look rest, id => (rest id).steps id + 1
  | write _ rest, id => rest.steps id + 1
  | callNext child rest, id => child.steps id + (rest (child.run id).result).steps id + 1

theorem steps_pos (job : Job) (id : Text) : 0 < job.steps id := by
  cases job <;> simp [steps]

/-- Goes on with a result in the same job. -/
def andThen (next : Except Failure Response → Job) : Job → Job
  | done result => next result
  | publish id rest => publish id (rest.andThen next)
  | look rest => look fun id => (rest id).andThen next
  | write record rest => write record (rest.andThen next)
  | callNext child rest => callNext child fun result => (rest result).andThen next

/-- What is done last finds the variable as the rest of the job has left it. -/
theorem run_andThen (next : Except Failure Response → Job) (job : Job) (id : Text) :
    (job.andThen next).run id =
      ((next (job.run id).result).run (job.run id).requestId).after (job.run id).records := by
  induction job generalizing id with
  | done result => rfl
  | publish id' rest ih => exact ih id'
  | look rest ih => exact ih id id
  | write record rest ih =>
    show ((rest.andThen next).run id).after [record] = _
    rw [ih, ← Exchange.after_append]
    rfl
  | callNext child rest _ ih =>
    show (((rest (child.run id).result).andThen next).run id).after (child.run id).records = _
    rw [ih, ← Exchange.after_append]
    rfl

def report (result : Except Failure Response) : List Log.Record → Job
  | [] => done result
  | record :: rest => write record (report result rest)

theorem run_report (result : Except Failure Response) (records : List Log.Record) (id : Text) :
    (report result records).run id = { records, requestId := id, result } := by
  induction records with
  | nil => rfl
  | cons record rest ih => rw [report, run, ih]; rfl

/-- For every request the job does without interruption what a handler does that is told the value
of the variable. -/
def Does (job : Request → Job) (handler : Handler) : Prop :=
  ∀ id request, (job request).run id = handler id request

end Job

open Job (Does)

section layers

variable {inside : Request → Job} {inner : Handler}

/-! ### Endpoints -/

namespace Endpoints

variable (pages : Pages) (routes : List Routing.Route) (installed : Option Installed)
  (fault : Option Failure) (uptime : Value)

/-- An endpoint does not look at the variable. -/
def job (request : Request) : Job :=
  let e := handler pages routes installed fault uptime [] request
  .report e.result e.records

theorem handler_eq (id : Text) (request : Request) :
    handler pages routes installed fault uptime id request =
      { handler pages routes installed fault uptime [] request with requestId := id } := by
  rw [handler, handler]
  split <;> rfl

theorem job_does :
    Does (job pages routes installed fault uptime)
      (handler pages routes installed fault uptime) := by
  intro id request
  rw [job, Job.run_report, handler_eq _ _ _ _ _ id]

end Endpoints

/-! ### Layers in the job of what is inside -/

def FailureLayers.answerFaultsJob (inside : Request → Job) (request : Request) : Job :=
  (inside request).andThen fun
    | .error (.fault f) => .look fun id => .write (faultRecord id f) (.done (answerFault id f))
    | result => .done result

theorem FailureLayers.answerFaultsJob_does (h : Does inside inner) :
    Does (answerFaultsJob inside) (answerFaults inner) := by
  intro id request
  rw [answerFaultsJob, Job.run_andThen, h, answerFaults]
  cases hr : (inner id request).result with
  | ok response => simp [Job.run, Exchange.after, ← hr]
  | error failure =>
    cases failure with
    | fault f => rfl
    | _ => simp [Job.run, Exchange.after, ← hr]

def CrossOrigin.job (origins : List Text) (inside : Request → Job) (request : Request) : Job :=
  let origin := request.headers.get? "origin"
  match askedMethod? request with
  | some method => .done (.ok (answer origins (origin.getD []) method request))
  | none => (inside request).andThen fun result =>
    .done (result.map fun r => { r with headers := share origins origin r.headers })

theorem CrossOrigin.job_does (origins : List Text) (h : Does inside inner) :
    Does (job origins inside) (layer origins inner) := by
  intro id request
  rw [job, layer]
  cases askedMethod? request with
  | some method => rfl
  | none =>
    dsimp only
    rw [Job.run_andThen, h]
    simp [Job.run, Exchange.after, Exchange.mapHeaders, Exchange.mapResponse]

def Compression.job (minimumSize level : Value) (inside : Request → Job) (request : Request) :
    Job :=
  (inside request).andThen fun result => .done (result.bind (respond minimumSize level request))

theorem Compression.job_does (minimumSize level : Value) (h : Does inside inner) :
    Does (job minimumSize level inside) (layer minimumSize level inner) := by
  intro id request
  rw [job, Job.run_andThen, h, layer]
  simp [Job.run, Exchange.after, Exchange.bindResponse]

/-! ### Layers that start a job for what is inside -/

/-- The response with the security headers, if they can be sent. -/
def Security.respond (rendered : List (Text × Text)) (response : Response) :
    Except Failure Response :=
  match unsendable? rendered response.headers with
  | some value => .error (.unencodable (HeaderValue.complaint value))
  | none => .ok { response with headers := secure rendered response.headers }

theorem Security.layer_eq (rendered : List (Text × Text)) (inner : Handler) (id : Text)
    (request : Request) :
    layer rendered inner id request = (inner id request).bindResponse (respond rendered) := rfl

def App.securityJob (app : App) (inside : Request → Job) (request : Request) : Job :=
  if app.security.enabled then
    .callNext (inside request) fun result =>
      .done (result.bind (Security.respond app.rendered))
  else inside request

/-- What is inside leaves its copy as it is, so that the variable has the same value around it. -/
theorem App.securityJob_does (app : App) (h : Does inside inner)
    (hid : ∀ id request, (inner id request).requestId = id) :
    Does (app.securityJob inside) (app.securityLayer inner) := by
  intro id request
  rw [securityJob, securityLayer]
  split
  · rw [Job.run, h, Security.layer_eq]
    simp [Job.run, Exchange.after, Exchange.bindResponse, hid]
  · exact h id request

/-- A job of its own also for a request that is not logged. -/
def AccessLog.job (occasion : Occasion) (uiPrefix : Text) (inside : Request → Job)
    (request : Request) : Job :=
  if isSkipped request then .callNext (inside request) .done
  else match arrive occasion request with
    | .error f => .done (.error f)
    | .ok arrival => .callNext (inside request) fun
      | .error f => .done (.error f)
      | .ok response => .look fun id =>
        match occasion.finished.asInstant.bind fun finished =>
            record arrival finished uiPrefix id request response.status with
        | .error f => .done (.error f)
        | .ok r => .write r (.done (.ok response))

theorem AccessLog.job_does (occasion : Occasion) (uiPrefix : Text) (h : Does inside inner)
    (hid : ∀ id request, (inner id request).requestId = id) :
    Does (job occasion uiPrefix inside) (layer occasion uiPrefix inner) := by
  intro id request
  rw [job, layer]
  split
  · rw [Job.run, h]
    exact Exchange.after_records (hid id request)
  · cases arrive occasion request with
    | error f => rfl
    | ok arrival =>
      dsimp only
      rw [Job.run, h, logged]
      have hresult := Exchange.after_records (hid id request)
      cases hr : (inner id request).result with
      | error f =>
        rw [hr] at hresult
        exact hresult
      | ok response =>
        dsimp only
        rw [Job.run]
        cases occasion.finished.asInstant.bind fun finished =>
            record arrival finished uiPrefix id request response.status with
        | error f => simp [Job.run, Exchange.after, hid]
        | ok noted => simp [Job.run, Exchange.after, hid]

def RequestId.job (occasion : Occasion) (inside : Request → Job) (request : Request) : Job :=
  let id := choose occasion.freshId request
  .publish id <| .callNext (inside request) fun result =>
    .done (result.map fun r => { r with headers := r.headers.set header id })

theorem RequestId.job_does (occasion : Occasion) (h : Does inside inner) :
    Does (job occasion inside) (layer occasion inner) := by
  intro id request
  rw [job, Job.run, Job.run, h, layer]
  simp [Job.run, Exchange.after, Exchange.mapHeaders, Exchange.mapResponse]

end layers

/-! ### The service -/

/-- The job of a request, in which nothing is told to a layer by the one around it. -/
def App.job (app : App) (installed : Option Installed) (fault : Option Failure)
    (occasion : Occasion) : Request → Job :=
  RequestId.job occasion <|
  AccessLog.job occasion app.uiPrefix <|
  app.securityJob <|
  Compression.job app.values.gzipMinimumSize app.values.gzipLevel <|
  CrossOrigin.job app.origins <|
  FailureLayers.answerFaultsJob <|
  Endpoints.job app.pages app.routes installed fault occasion.uptime

theorem App.job_does (app : App) (installed : Option Installed) (fault : Option Failure)
    (occasion : Occasion) :
    Does (app.job installed fault occasion) (app.handler installed fault occasion) := by
  have hcore := FailureLayers.answerFaultsJob_does
    (Endpoints.job_does app.pages app.routes installed fault occasion.uptime)
  have hshared := CrossOrigin.job_does app.origins hcore
  have hcompressed :=
    Compression.job_does app.values.gzipMinimumSize app.values.gzipLevel hshared
  have hinner := app.securityJob_does hcompressed fun id request =>
    ((app.isInner_core installed fault occasion id request).bindResponse _).requestId
  have hlogged := AccessLog.job_does occasion app.uiPrefix hinner fun id request =>
    (app.isInner_inner installed fault occasion id request).requestId
  exact RequestId.job_does occasion hlogged

end BundleHost
