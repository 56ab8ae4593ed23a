import EpokAuth.Program
import EpokAuth.KeyedTable
import EpokAuth.StatementEngine
import EpokAuth.Errors
import EpokAuth.Models
import EpokAuth.Store
import EpokAuth.StoreExecution
import EpokAuth.Transaction
import EpokAuth.SessionIssuer
import EpokAuth.SessionService
import EpokAuth.UserService
import EpokAuth.EmailLinkPolicy
import EpokAuth.EmailLinkService
import EpokAuth.AccountActivation
import EpokAuth.PasskeyService
import EpokAuth.GooglePolicy
import EpokAuth.GoogleService
import EpokAuth.ServiceTransaction
import EpokAuth.LabelledRun
import EpokAuth.Footprint
import EpokAuth.ServiceRun
import EpokAuth.Settings
import EpokAuth.Validation
import EpokAuth.Passwords
import EpokAuth.Tokens
import EpokAuth.AccountMove
import EpokAuth.ServiceEffect
import EpokAuth.SessionEffect
import EpokAuth.UserEffect
import EpokAuth.EmailLinkEffect
import EpokAuth.LinkConsumption
import EpokAuth.PasskeyEffect
import EpokAuth.GoogleEffect
import EpokAuth.ServiceEffects
import EpokAuth.SuccessorChain
import EpokAuth.SessionStep
import EpokAuth.RefreshFamily
import EpokAuth.LinearFamily
import EpokAuth.ReplayRevocation
import EpokAuth.LiveSession
import EpokAuth.AccountStep
import EpokAuth.PendingAccount
import EpokAuth.ActivationHistory
import EpokAuth.ActivationRun
import EpokAuth.LinkTrace
import EpokAuth.CredentialFence
import EpokAuth.VersionFence
import EpokAuth.CredentialRun
import EpokAuth.PrincipalCheck
import EpokAuth.Lockout
import EpokAuth.PasswordGuess
import EpokAuth.GuessingBound
import EpokAuth.LockLedger
import EpokAuth.ReadCommitted
import EpokAuth.OpenTransaction
import EpokAuth.ScriptedSchedule
import EpokAuth.StatementContract
import EpokAuth.LockProtection
import EpokAuth.ConcurrentServices
import EpokAuth.LinkMove
import EpokAuth.StoreProtection
import EpokAuth.ServiceDiscipline
import EpokAuth.DisciplinedParts
import EpokAuth.AccountDiscipline
import EpokAuth.AccountConduct
import EpokAuth.AccountRun
import EpokAuth.AdminSurvival
import EpokAuth.LockHistory
import EpokAuth.RowLocks
import EpokAuth.LostUpdate
import EpokAuth.SurvivingSession
import EpokAuth.CompleteRevocation
import EpokAuth.DeliveryReport
import EpokAuth.LinkDiscipline
import EpokAuth.LinkProtection
import EpokAuth.LinkConduct
import EpokAuth.LinkRun
import EpokAuth.LinkOrder
import EpokAuth.LinkReplacement
import EpokAuth.LinkHistory
import EpokAuth.LinkSingleUse
import EpokAuth.PasswordPolicy
import EpokAuth.PasswordSetting
import EpokAuth.StoredDigests
import EpokAuth.TransportChecks
import EpokAuth.DoubleRounding
import EpokAuth.TextEncoding
import EpokAuth.UuidText
import EpokAuth.AccessToken
import EpokAuth.TokenReading
import EpokAuth.TokenWindow
import EpokAuth.SettingsConsistency
import EpokAuth.EmailDomain
import EpokAuth.GoogleLogin
import EpokAuth.LoginAudit
import EpokAuth.LinkCreation
import EpokAuth.LinkRequest
import EpokAuth.LinkRate
import EpokAuth.ContractMeet
import EpokAuth.DisciplineMeet
import EpokAuth.CallTransactions
import EpokAuth.RoleDiscipline
import EpokAuth.RoleProtection
import EpokAuth.LockoutBooks
import EpokAuth.Capabilities
import EpokAuth.StoredCapabilities
import EpokAuth.LinkGenerations
import EpokAuth.UniqueColumns
import EpokAuth.OriginForm
import EpokAuth.Reauthentication
import EpokAuth.ChallengeOrigins
import EpokAuth.OriginChecks
import EpokAuth.UniformAnswers
import EpokAuth.RowUse
import EpokAuth.IssuedStatements
import EpokAuth.ChallengeHistory
import EpokAuth.ChallengeUse
import EpokAuth.IsolatedTransactions
import EpokAuth.SerialServices
import EpokAuth.RoleConduct
import EpokAuth.AdminBootstrap
import EpokAuth.Operations
import EpokAuth.GeneratedPasswords
import EpokAuth.Routes
import EpokAuth.RouteAuthority
import EpokAuth.RouteConduct
import EpokAuth.ServedAuthority
import EpokAuth.MintedSessions
import EpokAuth.SessionOrigins
import EpokAuth.ServedOrigins
import EpokAuth.RouteConclusions
import EpokAuth.ServedResponses
import EpokAuth.DeliveredLinks
import EpokAuth.ServedEmails
import EpokAuth.RouteCeremonies
import EpokAuth.TakenChallenges
import EpokAuth.ServedCeremonies
import EpokAuth.GrantedRoles
import EpokAuth.ServedRoles
import EpokAuth.ServedDeadlines
import EpokAuth.PrincipalRun
