import Listing.Catalog.Basic

/-! # The fields of sessions, tasks, results and partitions

  The options of tasks appear twice: under tasks, and under sessions,
  which carry defaults for them.
-/

namespace Listing.Catalog

/-- One of the entity's own attributes. -/
def summaryField (entity : EntityKind) (code : UInt16) (type : TypeTag) : Field :=
  ⟨⟨entity, .summary, code⟩, type⟩

/-- The options of tasks, as fields of an entity. -/
def taskOptions (entity : EntityKind) : List (String × Field) :=
  [ ("Options.MaxDuration", ⟨⟨entity, .taskOptions, 1⟩, .duration⟩),
    ("Options.MaxRetries", ⟨⟨entity, .taskOptions, 2⟩, .int⟩),
    ("Options.Priority", ⟨⟨entity, .taskOptions, 3⟩, .int⟩),
    ("Options.PartitionId", ⟨⟨entity, .taskOptions, 4⟩, .string⟩),
    ("Options.ApplicationName", ⟨⟨entity, .taskOptions, 5⟩, .string⟩),
    ("Options.ApplicationVersion", ⟨⟨entity, .taskOptions, 6⟩, .string⟩),
    ("Options.ApplicationNamespace", ⟨⟨entity, .taskOptions, 7⟩, .string⟩),
    ("Options.ApplicationService", ⟨⟨entity, .taskOptions, 8⟩, .string⟩),
    ("Options.EngineType", ⟨⟨entity, .taskOptions, 9⟩, .string⟩) ]

/-- The fields of a session. -/
def sessionFields : List (String × Field) :=
  let field := summaryField .session
  [ ("SessionId", field 1 .string),
    ("Status", field 2 (.status .session)),
    ("ClientSubmission", field 3 .boolean),
    ("WorkerSubmission", field 4 .boolean),
    ("CreatedAt", field 5 .timestamp),
    ("CancelledAt", field 6 .timestamp),
    ("ClosedAt", field 7 .timestamp),
    ("PurgedAt", field 8 .timestamp),
    ("DeletedAt", field 9 .timestamp),
    ("Duration", field 10 .duration),
    ("PartitionIds", field 11 .array) ] ++ taskOptions .session

/-- The fields of a task. -/
def taskFields : List (String × Field) :=
  let field := summaryField .task
  [ ("TaskId", field 1 .string),
    ("SessionId", field 2 .string),
    ("OwnerPodId", field 3 .string),
    ("InitialTaskId", field 4 .string),
    ("Status", field 5 (.status .task)),
    ("CreatedAt", field 6 .timestamp),
    ("SubmittedAt", field 7 .timestamp),
    ("StartedAt", field 8 .timestamp),
    ("EndedAt", field 9 .timestamp),
    ("CreationToEndDuration", field 10 .duration),
    ("ProcessingToEndDuration", field 11 .duration),
    ("ReceivedToEndDuration", field 19 .duration),
    ("PodHostname", field 12 .string),
    ("ReceivedAt", field 13 .timestamp),
    ("AcquiredAt", field 14 .timestamp),
    ("FetchedAt", field 17 .timestamp),
    ("ProcessedAt", field 18 .timestamp),
    ("Error", field 15 .string),
    ("PayloadId", field 16 .string) ] ++ taskOptions .task

/-- The fields of a result. -/
def resultFields : List (String × Field) :=
  let field := summaryField .result
  [ ("SessionId", field 1 .string),
    ("Name", field 2 .string),
    ("OwnerTaskId", field 3 .string),
    ("Status", field 4 (.status .result)),
    ("CreatedAt", field 5 .timestamp),
    ("CompletedAt", field 6 .timestamp),
    ("ResultId", field 7 .string),
    ("Size", field 8 .int),
    ("CreatedBy", field 9 .string),
    ("ManualDeletion", field 10 .boolean) ]

/-- The fields of a partition. -/
def partitionFields : List (String × Field) :=
  let field := summaryField .partition
  [ ("Id", field 1 .string),
    ("ParentPartitionIds", field 2 .array),
    ("PodReserved", field 3 .int),
    ("PodMax", field 4 .int),
    ("PreemptionPercentage", field 5 .int),
    ("Priority", field 6 .int) ]

/-- The catalog of an entity. Partitions are sorted by their identifier and all others by
their time of creation. -/
def ofEntity : EntityKind → Catalog
  | .session => ofEntries .session sessionFields (some ⟨.session, .summary, 5⟩)
  | .task => ofEntries .task taskFields (some ⟨.task, .summary, 6⟩)
  | .result => ofEntries .result resultFields (some ⟨.result, .summary, 5⟩)
  | .partition => ofEntries .partition partitionFields (some ⟨.partition, .summary, 1⟩)

end Listing.Catalog
